import OsmEdge.Lib.Bytes

/-
  `pkg/utils/cidr`: IP arithmetic on byte slices.

  A `net.IP` is its byte slice, most significant byte first. `IncrIP` and `DecrIP` change the
  slice in place from its last byte; the model returns the new slice and runs the loops on
  the reversed slice, so that each loop is a recursion on its list.

  `IncrIP` adds one modulo `256 ^ len` (`beVal_IncrIP`). `DecrIP` subtracts one, except on
  the all-zero slice of two bytes or more: there its inner loop borrows through every byte
  without returning, the outer loop goes round again and decrements the last byte a second
  time, and the result is `256 ^ len - 2` (`beVal_DecrIP`). So the two are inverse exactly
  away from that case: `IncrIP (DecrIP ip) = ip` fails only at the all-zero slice and
  `DecrIP (IncrIP ip) = ip` only at the all-`0xFF` slice, both of length two or more.
-/

namespace OsmEdge.Cidr

open Bytes

/-! ## `IncrIP` and `DecrIP` -/

/-- The loop of `IncrIP`, on the bytes from the last one: each is incremented, and the loop
    stops at the first that does not wrap to `0`. -/
def incrFromLast : List UInt8 → List UInt8
  | [] => []
  | b :: bs => if b + 1 > 0 then (b + 1) :: bs else (b + 1) :: incrFromLast bs

/-- `IncrIP`. -/
def IncrIP (ip : List UInt8) : List UInt8 := (incrFromLast ip.reverse).reverse

/-- The inner loop of `DecrIP`, on the bytes before the last one from the nearest: each is
    decremented, and `DecrIP` returns (`true`) at the first that does not wrap to `0xFF`. -/
def decrBorrow : List UInt8 → Bool × List UInt8
  | [] => (false, [])
  | b :: bs =>
    if b - 1 < 0xFF then (true, (b - 1) :: bs)
    else ((decrBorrow bs).1, (b - 1) :: (decrBorrow bs).2)

/-- The outer loop of `DecrIP` with `i` rounds left, on the bytes from the last one: the last
    byte is decremented and the loop stops if it did not wrap; otherwise the inner loop runs,
    and when it does not return the outer loop goes round again. -/
def decrFromLast : Nat → List UInt8 → List UInt8
  | 0, ip => ip
  | _ + 1, [] => []
  | i + 1, b :: bs =>
    if b - 1 < 0xFF then (b - 1) :: bs
    else if (decrBorrow bs).1 then (b - 1) :: (decrBorrow bs).2
    else decrFromLast i ((b - 1) :: (decrBorrow bs).2)

/-- `DecrIP`: the outer loop runs `len(ip)` rounds. -/
def DecrIP (ip : List UInt8) : List UInt8 := (decrFromLast ip.length ip.reverse).reverse

section loops

variable {b : UInt8} {bs : List UInt8}

theorem incrFromLast_cons (b : UInt8) (bs : List UInt8) :
    incrFromLast (b :: bs) =
      if b + 1 > 0 then (b + 1) :: bs else (b + 1) :: incrFromLast bs := rfl

theorem decrBorrow_cons (b : UInt8) (bs : List UInt8) :
    decrBorrow (b :: bs) =
      if b - 1 < 0xFF then (true, (b - 1) :: bs)
      else ((decrBorrow bs).1, (b - 1) :: (decrBorrow bs).2) := rfl

theorem decrFromLast_succ_cons (i : Nat) (b : UInt8) (bs : List UInt8) :
    decrFromLast (i + 1) (b :: bs) =
      if b - 1 < 0xFF then (b - 1) :: bs
      else if (decrBorrow bs).1 then (b - 1) :: (decrBorrow bs).2
      else decrFromLast i ((b - 1) :: (decrBorrow bs).2) := rfl

theorem length_incrFromLast : ∀ bs : List UInt8, (incrFromLast bs).length = bs.length
  | [] => rfl
  | b :: bs => by
    rw [incrFromLast_cons]
    split
    · rfl
    · rw [List.length_cons, List.length_cons, length_incrFromLast bs]

theorem length_decrBorrow : ∀ bs : List UInt8, (decrBorrow bs).2.length = bs.length
  | [] => rfl
  | b :: bs => by
    rw [decrBorrow_cons]
    split
    · rfl
    · rw [List.length_cons, List.length_cons, length_decrBorrow bs]

theorem length_decrFromLast : ∀ (i : Nat) (bs : List UInt8), (decrFromLast i bs).length = bs.length
  | 0, _ => rfl
  | _ + 1, [] => rfl
  | i + 1, b :: bs => by
    rw [decrFromLast_succ_cons]
    split
    · rfl
    · split
      · rw [List.length_cons, List.length_cons, length_decrBorrow]
      · rw [length_decrFromLast i, List.length_cons, List.length_cons, length_decrBorrow]

/-- The loop of `IncrIP` adds one to the value of the bytes, the carry out of the last byte
    dropped. -/
theorem leVal_incrFromLast : ∀ bs : List UInt8,
    leVal (incrFromLast bs) = (leVal bs + 1) % 256 ^ bs.length
  | [] => rfl
  | b :: bs => by
    have hb : b.toNat < 256 := b.toNat_lt
    have hlt := leVal_lt bs
    rw [incrFromLast_cons, List.length_cons, Nat.pow_succ]
    by_cases hwrap : b.toNat = 255
    · -- the byte wraps to `0` and the carry moves on
      have hcarry : (b + 1).toNat = 0 := by rw [toNat_add_one, hwrap]
      rw [if_neg (by rw [gt_iff_lt, add_one_pos_iff]; exact not_not.mpr hwrap), leVal_cons,
        leVal_cons, hcarry, leVal_incrFromLast bs, hwrap]
      calc 0 + 256 * ((leVal bs + 1) % 256 ^ bs.length)
          = 256 * (leVal bs + 1) % (256 * 256 ^ bs.length) := by
            rw [Nat.zero_add, Nat.mul_mod_mul_left]
        _ = (255 + 256 * leVal bs + 1) % (256 ^ bs.length * 256) := by
            rw [Nat.mul_comm 256 (256 ^ bs.length)]
            congr 1
            omega
    · have hsum : b.toNat + 1 + 256 * leVal bs < 256 ^ bs.length * 256 := by omega
      rw [if_pos (by rw [gt_iff_lt, add_one_pos_iff]; exact hwrap), leVal_cons, leVal_cons,
        toNat_add_one, Nat.mod_eq_of_lt (by omega : b.toNat + 1 < 256),
        Nat.mod_eq_of_lt (by omega)]
      omega

/-- The inner loop of `DecrIP` returns exactly when some byte it reaches is not `0`. -/
theorem decrBorrow_fst : ∀ bs : List UInt8, (decrBorrow bs).1 = decide (0 < leVal bs)
  | [] => rfl
  | b :: bs => by
    rw [decrBorrow_cons]
    by_cases hb : b.toNat = 0
    · rw [if_neg (by rw [sub_one_lt_iff]; exact not_not.mpr hb), decrBorrow_fst bs, leVal_cons,
        hb]
      simp
    · rw [if_pos ((sub_one_lt_iff b).mpr hb), leVal_cons]
      exact (decide_eq_true (by omega)).symm

/-- The inner loop of `DecrIP` subtracts one from the value of the bytes it reaches, or, when
    they are all `0`, leaves them all `0xFF`. -/
theorem leVal_decrBorrow : ∀ bs : List UInt8,
    leVal (decrBorrow bs).2 + 1 = if 0 < leVal bs then leVal bs else 256 ^ bs.length
  | [] => rfl
  | b :: bs => by
    have hb : b.toNat < 256 := b.toNat_lt
    rw [decrBorrow_cons, List.length_cons, Nat.pow_succ]
    by_cases hb0 : b.toNat = 0
    · have hborrow : (b - 1).toNat = 255 := by rw [toNat_sub_one, hb0]
      have ih := leVal_decrBorrow bs
      rw [if_neg (by rw [sub_one_lt_iff]; exact not_not.mpr hb0), leVal_cons, leVal_cons,
        hborrow, hb0]
      split at ih <;> split <;> omega
    · have hdec : (b - 1).toNat = b.toNat - 1 := by rw [toNat_sub_one]; omega
      rw [if_pos ((sub_one_lt_iff b).mpr hb0), leVal_cons, leVal_cons, hdec,
        if_pos (by omega)]
      omega

theorem decrFromLast_succ_of_ne_zero (i : Nat) (hb : b.toNat ≠ 0) (bs : List UInt8) :
    decrFromLast (i + 1) (b :: bs) = (b - 1) :: bs := by
  rw [decrFromLast_succ_cons, if_pos ((sub_one_lt_iff b).mpr hb)]

theorem decrFromLast_succ_of_zero (i : Nat) (hb : b.toNat = 0) (bs : List UInt8) :
    decrFromLast (i + 1) (b :: bs) =
      if 0 < leVal bs then (b - 1) :: (decrBorrow bs).2
      else decrFromLast i ((b - 1) :: (decrBorrow bs).2) := by
  rw [decrFromLast_succ_cons, if_neg (by rw [sub_one_lt_iff]; exact not_not.mpr hb),
    decrBorrow_fst]
  simp only [decide_eq_true_eq]

/-- The loop of `DecrIP` over a whole slice: one less than the value, but on a value of `0`
    one round wraps every byte to `0xFF` and, when there is a byte left to go round for, the
    next takes one more from the last byte. -/
theorem leVal_decrFromLast (bs : List UInt8) :
    leVal (decrFromLast bs.length bs) =
      if 0 < leVal bs then leVal bs - 1
      else if bs.length ≤ 1 then 256 ^ bs.length - 1 else 256 ^ bs.length - 2 := by
  match bs with
  | [] => rfl
  | b :: bs =>
    have hb : b.toNat < 256 := b.toNat_lt
    have hborrow := leVal_decrBorrow bs
    have hrest : (decrBorrow bs).2.length = bs.length := length_decrBorrow bs
    rw [List.length_cons]
    by_cases hb0 : b.toNat = 0
    · have hwrap : (b - 1).toNat = 255 := by rw [toNat_sub_one, hb0]
      rw [decrFromLast_succ_of_zero _ hb0, leVal_cons, hb0]
      by_cases hv : 0 < leVal bs
      · -- the inner loop returns inside the slice
        rw [if_pos hv, if_pos (by omega), leVal_cons, hwrap]
        rw [if_pos hv] at hborrow
        omega
      · -- every byte was `0`: a second round, when there is one, takes the last byte to `0xFE`
        rw [if_neg hv] at hborrow
        rw [if_neg hv, if_neg (by omega), Nat.pow_succ]
        cases bs with
        | nil =>
          show leVal [b - 1] = _
          rw [leVal_cons, hwrap]
          rfl
        | cons c cs =>
          rw [List.length_cons] at hborrow ⊢
          rw [if_neg (by omega), decrFromLast_succ_of_ne_zero _ (by omega), leVal_cons,
            toNat_sub_one, hwrap]
          omega
    · have hdec : (b - 1).toNat = b.toNat - 1 := by rw [toNat_sub_one]; omega
      rw [decrFromLast_succ_of_ne_zero _ hb0, leVal_cons, leVal_cons, hdec, if_pos (by omega)]
      omega

end loops

theorem length_IncrIP (ip : List UInt8) : (IncrIP ip).length = ip.length := by
  rw [IncrIP, List.length_reverse, length_incrFromLast, List.length_reverse]

theorem length_DecrIP (ip : List UInt8) : (DecrIP ip).length = ip.length := by
  rw [DecrIP, List.length_reverse, length_decrFromLast, List.length_reverse]

/-- `IncrIP` adds one to the address, modulo `256 ^ len(ip)`. -/
theorem beVal_IncrIP (ip : List UInt8) :
    beVal (IncrIP ip) = (beVal ip + 1) % 256 ^ ip.length := by
  rw [beVal, IncrIP, List.reverse_reverse, leVal_incrFromLast, List.length_reverse]
  rfl

/-- `DecrIP` subtracts one from the address, except on the all-zero address of two bytes or
    more, which it takes to `256 ^ len(ip) - 2` and not to the top address. -/
theorem beVal_DecrIP (ip : List UInt8) :
    beVal (DecrIP ip) =
      if 0 < beVal ip then beVal ip - 1
      else if ip.length ≤ 1 then 256 ^ ip.length - 1 else 256 ^ ip.length - 2 := by
  have h := leVal_decrFromLast ip.reverse
  rw [List.length_reverse] at h
  rw [beVal, DecrIP, List.reverse_reverse, h]
  rfl

/-- `IncrIP` undoes `DecrIP` except on the all-zero address of two bytes or more. -/
theorem IncrIP_DecrIP_iff (ip : List UInt8) :
    IncrIP (DecrIP ip) = ip ↔ ip.length ≤ 1 ∨ ∃ b ∈ ip, b ≠ 0 := by
  have hlen : (IncrIP (DecrIP ip)).length = ip.length := by rw [length_IncrIP, length_DecrIP]
  have hlt := beVal_lt ip
  have htwo : ¬ ip.length ≤ 1 → 256 ≤ 256 ^ ip.length := fun hl => Nat.le_self_pow (by omega) 256
  rw [← beVal_inj_iff hlen, beVal_IncrIP, length_DecrIP, beVal_DecrIP, ← beVal_pos_iff]
  generalize 256 ^ ip.length = N at *
  by_cases hv : 0 < beVal ip
  · rw [if_pos hv, Nat.sub_add_cancel hv, Nat.mod_eq_of_lt hlt]
    simp [hv]
  · rw [if_neg hv]
    by_cases hl : ip.length ≤ 1
    · -- one byte at most: `DecrIP` reached the top address, and `IncrIP` wraps it to `0`
      rw [if_pos hl, Nat.sub_add_cancel (by omega), Nat.mod_self]
      simp only [hl, true_or, iff_true]
      omega
    · -- `DecrIP` stopped one below the top address
      have := htwo hl
      rw [if_neg hl, Nat.mod_eq_of_lt (by omega)]
      simp only [hl, hv, or_self, iff_false]
      omega

/-- `DecrIP` undoes `IncrIP` except on the all-`0xFF` address of two bytes or more. -/
theorem DecrIP_IncrIP_iff (ip : List UInt8) :
    DecrIP (IncrIP ip) = ip ↔ ip.length ≤ 1 ∨ ∃ b ∈ ip, b ≠ 255 := by
  have hlen : (DecrIP (IncrIP ip)).length = ip.length := by rw [length_DecrIP, length_IncrIP]
  have hlt := beVal_lt ip
  have htwo : ¬ ip.length ≤ 1 → 256 ≤ 256 ^ ip.length := fun hl => Nat.le_self_pow (by omega) 256
  rw [← beVal_inj_iff hlen, beVal_DecrIP, beVal_IncrIP, length_IncrIP, ← beVal_add_one_lt_iff]
  generalize 256 ^ ip.length = N at *
  by_cases hv : beVal ip + 1 < N
  · rw [Nat.mod_eq_of_lt hv, if_pos (Nat.succ_pos _), Nat.add_sub_cancel]
    simp [hv]
  · -- the top address, which `IncrIP` wraps to `0`
    have htop : beVal ip + 1 = N := by omega
    rw [htop, Nat.mod_self, if_neg (Nat.lt_irrefl 0)]
    by_cases hl : ip.length ≤ 1
    · rw [if_pos hl]
      simp only [hl, true_or, iff_true]
      omega
    · have := htwo hl
      rw [if_neg hl]
      simp only [hl, false_or, Nat.lt_irrefl, iff_false]
      omega

/-- `IncrIP` and `DecrIP` are inverse on every byte slice but two kinds: the all-zero slice,
    which `DecrIP` takes to `…FF FE`, and the all-`0xFF` slice, which `IncrIP` takes to zero
    and `DecrIP` then to `…FF FE`, both when the slice has two bytes or more. -/
theorem IncrIP_DecrIP_inverse (ip : List UInt8) :
    (IncrIP (DecrIP ip) = ip ↔ ip.length ≤ 1 ∨ ∃ b ∈ ip, b ≠ 0) ∧
      (DecrIP (IncrIP ip) = ip ↔ ip.length ≤ 1 ∨ ∃ b ∈ ip, b ≠ 255) :=
  ⟨IncrIP_DecrIP_iff ip, DecrIP_IncrIP_iff ip⟩

example : DecrIP [0, 0, 0, 0] = [255, 255, 255, 254] := by decide
example : DecrIP [0] = [255] := by decide

end OsmEdge.Cidr
