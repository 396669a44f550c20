import Mathlib.Data.List.Basic
import Mathlib.Algebra.Group.Nat.Defs
import Mathlib.Tactic.Ring

/-
  Byte strings read as numbers.

  `leVal` reads bytes least significant first and `beVal` most significant first, as network
  order writes an address. The value is below `256 ^ length` (`leVal_lt`) and on one length it
  determines the bytes (`leVal_inj`). The two ends of that range are the strings of one
  repeated byte: the value is `0` exactly when every byte is `0x00`, and `256 ^ length - 1`
  exactly when every byte is `0xFF`. `Compare` is `bytes.Compare`.
-/

namespace Bytes

/-- The value of a byte string, least significant byte first. -/
def leVal : List UInt8 → Nat
  | [] => 0
  | b :: bs => b.toNat + 256 * leVal bs

@[simp] theorem leVal_nil : leVal [] = 0 := rfl

@[simp] theorem leVal_cons (b : UInt8) (bs : List UInt8) :
    leVal (b :: bs) = b.toNat + 256 * leVal bs := rfl

/-- The value of a byte string, most significant byte first. -/
def beVal (bs : List UInt8) : Nat := leVal bs.reverse

theorem toNat_add_one (b : UInt8) : (b + 1).toNat = (b.toNat + 1) % 256 := by
  rw [UInt8.toNat_add]
  rfl

theorem toNat_sub_one (b : UInt8) : (b - 1).toNat = (b.toNat + 255) % 256 := by
  rw [UInt8.toNat_sub, Nat.add_comm]
  rfl

theorem add_one_pos_iff (b : UInt8) : 0 < b + 1 ↔ b.toNat ≠ 255 := by
  have hb : b.toNat < 256 := b.toNat_lt
  rw [UInt8.lt_iff_toNat_lt, toNat_add_one, UInt8.toNat_zero]
  omega

theorem sub_one_lt_iff (b : UInt8) : b - 1 < 255 ↔ b.toNat ≠ 0 := by
  have hb : b.toNat < 256 := b.toNat_lt
  rw [UInt8.lt_iff_toNat_lt, toNat_sub_one]
  simp only [UInt8.reduceToNat]
  omega

theorem leVal_lt : ∀ bs : List UInt8, leVal bs < 256 ^ bs.length
  | [] => Nat.one_pos
  | b :: bs => by
    have hb : b.toNat < 256 := b.toNat_lt
    have ih := leVal_lt bs
    rw [leVal_cons, List.length_cons, Nat.pow_succ]
    omega

/-- On one length, the value determines the bytes. -/
theorem leVal_inj : ∀ {bs cs : List UInt8}, bs.length = cs.length → leVal bs = leVal cs →
    bs = cs
  | [], [], _, _ => rfl
  | b :: bs, c :: cs, hlen, hval => by
    have hb : b.toNat < 256 := b.toNat_lt
    have hc : c.toNat < 256 := c.toNat_lt
    rw [leVal_cons, leVal_cons] at hval
    have hhead : b.toNat = c.toNat := by omega
    have htail : leVal bs = leVal cs := by omega
    rw [UInt8.toNat_inj.mp hhead, leVal_inj (Nat.succ_inj.mp hlen) htail]

theorem leVal_eq_zero_iff : ∀ {bs : List UInt8}, leVal bs = 0 ↔ ∀ b ∈ bs, b = 0
  | [] => by simp
  | b :: bs => by
    rw [leVal_cons, List.forall_mem_cons, ← leVal_eq_zero_iff, ← UInt8.toNat_inj]
    simp only [UInt8.toNat_zero]
    omega

theorem leVal_add_one_eq_iff : ∀ {bs : List UInt8},
    leVal bs + 1 = 256 ^ bs.length ↔ ∀ b ∈ bs, b = 255
  | [] => by simp
  | b :: bs => by
    have hb : b.toNat < 256 := b.toNat_lt
    have hlt := leVal_lt bs
    rw [leVal_cons, List.length_cons, Nat.pow_succ, List.forall_mem_cons,
      ← leVal_add_one_eq_iff, ← UInt8.toNat_inj]
    simp only [UInt8.reduceToNat]
    omega

theorem leVal_append : ∀ xs ys : List UInt8, leVal (xs ++ ys) = leVal xs + 256 ^ xs.length * leVal ys
  | [], ys => by simp
  | x :: xs, ys => by
    rw [List.cons_append, leVal_cons, leVal_cons, leVal_append xs ys, List.length_cons, Nat.pow_succ]
    ring

/-- The `l` bytes of `x`, most significant first; `x` is taken modulo `256 ^ l`. -/
def beBytes : Nat → Nat → List UInt8
  | 0, _ => []
  | l + 1, x => UInt8.ofNat (x / 256 ^ l) :: beBytes l x

@[simp] theorem length_beBytes : ∀ l x, (beBytes l x).length = l
  | 0, _ => rfl
  | l + 1, x => by rw [beBytes, List.length_cons, length_beBytes l x]

/-- `bytes.Compare`: byte by byte, a proper prefix first; `-1`, `0` or `1`. -/
def Compare : List UInt8 → List UInt8 → Int
  | [], [] => 0
  | [], _ :: _ => -1
  | _ :: _, [] => 1
  | a :: as, b :: bs => if a < b then -1 else if b < a then 1 else Compare as bs

/-! ## Most significant byte first -/

theorem beVal_append (xs ys : List UInt8) :
    beVal (xs ++ ys) = beVal xs * 256 ^ ys.length + beVal ys := by
  rw [beVal, List.reverse_append, leVal_append, List.length_reverse, ← beVal, ← beVal]
  ring

theorem beVal_cons (b : UInt8) (bs : List UInt8) :
    beVal (b :: bs) = b.toNat * 256 ^ bs.length + beVal bs := by
  have h := beVal_append [b] bs
  rwa [List.singleton_append] at h

/-- The bytes of `x` read back as `x` modulo `256 ^ l`. -/
theorem beVal_beBytes : ∀ l x, beVal (beBytes l x) = x % 256 ^ l
  | 0, x => by simp [beBytes, beVal, Nat.mod_one]
  | l + 1, x => by
    have hbyte : (UInt8.ofNat (x / 256 ^ l)).toNat = x / 256 ^ l % 256 := UInt8.toNat_ofNat'
    rw [beBytes, beVal_cons, length_beBytes, beVal_beBytes l x, hbyte, pow_succ 256 l, Nat.mod_mul]
    ring

theorem beVal_lt (bs : List UInt8) : beVal bs < 256 ^ bs.length := by
  have h := leVal_lt bs.reverse
  rwa [List.length_reverse] at h

theorem beVal_inj_iff {bs cs : List UInt8} (hlen : bs.length = cs.length) :
    beVal bs = beVal cs ↔ bs = cs := by
  refine ⟨fun hval => ?_, congrArg beVal⟩
  have hrev : bs.reverse.length = cs.reverse.length := by simpa using hlen
  exact List.reverse_injective (leVal_inj hrev hval)

/-- A byte string is the bytes of its value. -/
theorem beBytes_beVal (bs : List UInt8) : beBytes bs.length (beVal bs) = bs := by
  rw [← beVal_inj_iff (length_beBytes _ _), beVal_beBytes, Nat.mod_eq_of_lt (beVal_lt bs)]

theorem beVal_pos_iff {bs : List UInt8} : 0 < beVal bs ↔ ∃ b ∈ bs, b ≠ 0 := by
  rw [Nat.pos_iff_ne_zero, Ne, beVal, leVal_eq_zero_iff]
  simp

theorem beVal_add_one_lt_iff {bs : List UInt8} :
    beVal bs + 1 < 256 ^ bs.length ↔ ∃ b ∈ bs, b ≠ 255 := by
  have hlt := beVal_lt bs
  have hmax : beVal bs + 1 = 256 ^ bs.length ↔ ∀ b ∈ bs, b = 255 := by
    simpa [beVal] using @leVal_add_one_eq_iff bs.reverse
  have hne : beVal bs + 1 ≠ 256 ^ bs.length ↔ ∃ b ∈ bs, b ≠ 255 := by
    rw [Ne, hmax]
    simp
  rw [← hne]
  omega

end Bytes
