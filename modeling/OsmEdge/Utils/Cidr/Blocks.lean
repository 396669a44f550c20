import Mathlib.Order.Interval.Set.Defs
import Mathlib.Data.List.Range
import OsmEdge.Utils.Cidr.Network
import OsmEdge.Lib.GoNet.V4

/-
  `SubNetting` (`pkg/utils/cidr/cidr.go`) on IPv4 networks, by the values of their
  addresses.

  A `V4Block` is an IPv4 network as `ParseCIDR` returns it: a base with no bit outside the mask,
  and the mask; its addresses are the interval `addrs` (`Contains_cidr`). Both functions walk
  from one network to the next through text: the network is written, parsed back with the new
  prefix length, and the address after its broadcast address is the next one
  (`broadcastIP_cidr`, `IncrIP_v4`).

  `SubNetting` by the subnet number splits a block into `2 ^ j` blocks of `j` more bits, one
  after the other (`SubNetting_v4`): they are disjoint and together hold the block's addresses
  (`SubNetting_partitions`). `SuperNetting`, which walks its networks the same way, is in
  `Utils.Cidr.SuperNetting`.
-/

namespace OsmEdge.Cidr

open GoNet Bytes

/-! ## Blocks of addresses -/

/-- The network of `n` ones from the address `x`. -/
def v4CIDR (x n : Nat) : CIDR := ⟨⟨beBytes 4 x, maskBytes 4 n⟩⟩

/-- An IPv4 network as `ParseCIDR` returns it: `2 ^ (32 - ones)` addresses from `base`, which
    has no bit set outside the mask. -/
structure V4Block where
  base : Nat
  ones : Nat
  ones_le : ones ≤ 32
  base_lt : base < 2 ^ 32
  aligned : base % 2 ^ (32 - ones) = 0

namespace V4Block

/-- The number of addresses. -/
def size (b : V4Block) : Nat := 2 ^ (32 - b.ones)

/-- The network as a `CIDR`. -/
def cidr (b : V4Block) : CIDR := v4CIDR b.base b.ones

/-- The addresses of the block, by value. -/
def addrs (b : V4Block) : Set Nat := Set.Ico b.base (b.base + b.size)

theorem size_pos (b : V4Block) : 0 < b.size := Nat.two_pow_pos _

theorem base_div_mul (b : V4Block) : b.base / b.size * b.size = b.base :=
  Nat.div_mul_cancel (Nat.dvd_of_mod_eq_zero b.aligned)

/-- A block ends at the top of the address space at the latest. -/
theorem add_size_le (b : V4Block) : b.base + b.size ≤ 2 ^ 32 := by
  have htop : 2 ^ 32 = 2 ^ b.ones * b.size := by
    rw [size, ← pow_add, Nat.add_sub_cancel' b.ones_le]
  have hq : b.base / b.size < 2 ^ b.ones := by
    rw [Nat.div_lt_iff_lt_mul b.size_pos, ← htop]
    exact b.base_lt
  calc b.base + b.size = (b.base / b.size + 1) * b.size := by rw [Nat.add_mul, base_div_mul, one_mul]
    _ ≤ 2 ^ b.ones * b.size := Nat.mul_le_mul_right _ hq
    _ = 2 ^ 32 := htop.symm

theorem beVal_base (b : V4Block) : beVal (beBytes 4 b.base) = b.base := by
  rw [beVal_beBytes, Nat.mod_eq_of_lt (by simpa using b.base_lt)]

/-- The address after the last one of a block is its base plus its size. -/
theorem beVal_last_add_one (b : V4Block) :
    beVal (beBytes 4 (b.base + b.size - 1)) + 1 = b.base + b.size := by
  have := b.add_size_le
  have := b.size_pos
  rw [beVal_beBytes, Nat.mod_eq_of_lt (by simp; omega)]
  omega

/-- `2 ^ j` blocks of `j` more bits fill a block. -/
theorem pow_mul_size_sub (b : V4Block) {j : Nat} (hj : b.ones + j ≤ 32) :
    2 ^ j * 2 ^ (32 - (b.ones + j)) = b.size := by
  rw [size, ← pow_add]
  congr 1
  omega

/-- The `i`-th of the `2 ^ j` blocks of `j` more bits that `b` splits into. -/
def sub (b : V4Block) {j : Nat} (hj : b.ones + j ≤ 32) (i : Nat) (hi : i < 2 ^ j) :
    V4Block where
  base := b.base + i * 2 ^ (32 - (b.ones + j))
  ones := b.ones + j
  ones_le := hj
  base_lt := by
    have hlt : i * 2 ^ (32 - (b.ones + j)) < b.size := by
      rw [← b.pow_mul_size_sub hj]
      exact Nat.mul_lt_mul_of_pos_right hi (Nat.two_pow_pos _)
    have := b.add_size_le
    omega
  aligned := by
    rw [Nat.add_mul_mod_self_right]
    exact Nat.mod_eq_zero_of_dvd (Nat.dvd_trans (Nat.pow_dvd_pow 2 (by omega))
      (Nat.dvd_of_mod_eq_zero b.aligned))

/-- The blocks a block splits into hold its addresses. -/
theorem mem_addrs_iff_sub (b : V4Block) {j : Nat} (hj : b.ones + j ≤ 32) (v : Nat) :
    v ∈ b.addrs ↔ ∃ i, ∃ hi : i < 2 ^ j, v ∈ (b.sub hj i hi).addrs := by
  have hsplit := b.pow_mul_size_sub hj
  have hs := Nat.two_pow_pos (32 - (b.ones + j))
  simp only [addrs, sub, size, Set.mem_Ico] at hsplit ⊢
  generalize 2 ^ (32 - (b.ones + j)) = s at hsplit hs ⊢
  generalize 2 ^ (32 - b.ones) = t at hsplit ⊢
  constructor
  · -- the block of `v` is the quotient of its offset
    rintro ⟨hlo, hhi⟩
    have hq : (v - b.base) / s < 2 ^ j := by
      rw [Nat.div_lt_iff_lt_mul hs, hsplit]
      exact Nat.sub_lt_left_of_lt_add hlo hhi
    refine ⟨(v - b.base) / s, hq, ?_, ?_⟩
    · have := Nat.div_mul_le_self (v - b.base) s
      omega
    · have := Nat.lt_div_mul_add (a := v - b.base) hs
      omega
  · rintro ⟨i, hi, hlo, hhi⟩
    have hle : (i + 1) * s ≤ 2 ^ j * s := Nat.mul_le_mul_right s hi
    rw [Nat.add_one_mul, hsplit] at hle
    exact ⟨by omega, by omega⟩

/-- The blocks of a split follow each other. -/
theorem sub_succ_base (b : V4Block) {j : Nat} (hj : b.ones + j ≤ 32) {m : Nat} (hm : m < 2 ^ j)
    (hm' : m + 1 < 2 ^ j) : (b.sub hj (m + 1) hm').base = (b.sub hj m hm).base + (b.sub hj m hm).size := by
  simp only [sub, size]
  ring

/-- Two blocks of one split share no address. -/
theorem disjoint_sub (b : V4Block) {j : Nat} (hj : b.ones + j ≤ 32) {i i' : Nat}
    (hi : i < 2 ^ j) (hi' : i' < 2 ^ j) (hne : i ≠ i') (v : Nat) :
    v ∈ (b.sub hj i hi).addrs → v ∉ (b.sub hj i' hi').addrs := by
  simp only [addrs, sub, size, Set.mem_Ico]
  generalize 2 ^ (32 - (b.ones + j)) = s
  rintro ⟨hlo, hhi⟩ ⟨hlo', hhi'⟩
  rcases Nat.lt_or_gt_of_ne hne with hlt | hlt
  · have hle : (i + 1) * s ≤ i' * s := Nat.mul_le_mul_right s hlt
    rw [Nat.add_one_mul] at hle
    omega
  · have hle : (i' + 1) * s ≤ i * s := Nat.mul_le_mul_right s hlt
    rw [Nat.add_one_mul] at hle
    omega

end V4Block

/-- The addresses that agree with an aligned `x` above the low bits are those from `x` on. -/
theorem div_eq_div_iff_of_mod_eq_zero {x y s : Nat} (hs : 0 < s) (hx : x % s = 0) :
    x / s = y / s ↔ x ≤ y ∧ y < x + s := by
  have hxs : x / s * s = x := Nat.div_mul_cancel (Nat.dvd_of_mod_eq_zero hx)
  rw [eq_comm, Nat.div_eq_iff hs, hxs]
  omega

/-- A block contains the IPv4 addresses whose values are its addresses. -/
theorem Contains_cidr (b : V4Block) (ip : IP) :
    b.cidr.ipnet.Contains ip = true ↔ ip.To4.length = 4 ∧ beVal ip.To4 ∈ b.addrs := by
  have h := Contains_v4 (length_beBytes 4 b.base) b.ones_le ip
  rw [V4Block.beVal_base, div_eq_div_iff_of_mod_eq_zero (Nat.two_pow_pos _) b.aligned] at h
  exact h

/-- A statement about IPv4 addresses, in either form, is one about the values below `2 ^ 32`. -/
theorem forall_ip_iff (P Q : Nat → Prop) :
    (∀ ip : IP, (ip.To4.length = 4 ∧ P (beVal ip.To4) ↔ ip.To4.length = 4 ∧ Q (beVal ip.To4))) ↔
      ∀ v < 2 ^ 32, (P v ↔ Q v) := by
  constructor
  · -- the four bytes of the value
    intro h v hv
    have hfour : (IP.To4 (beBytes 4 v)).length = 4 := by
      rw [To4_of_length (length_beBytes 4 v), length_beBytes]
    have hval : beVal (IP.To4 (beBytes 4 v)) = v := by
      rw [To4_of_length (length_beBytes 4 v), beVal_beBytes, Nat.mod_eq_of_lt (by simpa using hv)]
    have := h (beBytes 4 v)
    rw [hval] at this
    exact ⟨fun hp => (this.mp ⟨hfour, hp⟩).2, fun hq => (this.mpr ⟨hfour, hq⟩).2⟩
  · intro h ip
    by_cases hlen : ip.To4.length = 4
    · have hv : beVal ip.To4 < 2 ^ 32 := by simpa [hlen] using beVal_lt ip.To4
      rw [h _ hv]
    · simp [hlen]

/-- The mask of a block, as `CIDR.Mask` writes it. -/
theorem Mask_cidr (v6 : V6Text) (b : V4Block) : b.cidr.Mask v6 = dotted (maskBytes 4 b.ones) :=
  String_of_length v6 (length_maskBytes 4 b.ones)

theorem length_Mask_cidr_ne_zero (v6 : V6Text) (b : V4Block) : (b.cidr.Mask v6).length ≠ 0 := by
  obtain ⟨p, q, r, t, hp⟩ := List.length_eq_four.mp (length_maskBytes 4 b.ones)
  rw [Mask_cidr, hp, ← String.length_toList, toList_dotted]
  simp

/-- Two blocks with the same mask text have the same prefix length. -/
theorem ones_eq_of_Mask_eq (v6 : V6Text) {b b' : V4Block} (h : b.cidr.Mask v6 = b'.cidr.Mask v6) :
    b.ones = b'.ones := by
  rw [Mask_cidr, Mask_cidr] at h
  have hbytes := congrArg (fun t => ParseIP v6 t.toList) h
  simp only [ParseIP_dotted v6 (length_maskBytes 4 _)] at hbytes
  have hmask := congrArg simpleMaskLength (List.append_cancel_left hbytes)
  rw [simpleMaskLength_maskBytes 4 _ (by have := b.ones_le; omega),
    simpleMaskLength_maskBytes 4 _ (by have := b'.ones_le; omega)] at hmask
  exact Int.ofNat.inj hmask

/-! ## From one network to the next -/

/-- The text of a block with its prefix length reads back as the block. -/
theorem ParseCIDR_cidr (v6 : V6Text) (b : V4Block) :
    ParseCIDR v6 ((dotted (beBytes 4 b.base)).toList ++ '/' :: (toString (b.ones : Int)).toList) =
      some (v4InV6Prefix ++ beBytes 4 b.base, b.cidr.ipnet) := by
  rw [toString_natCast, ParseCIDR_dotted v6 (length_beBytes 4 b.base) b.ones_le,
    zipWith_and_maskBytes (length_beBytes 4 b.base) b.ones_le, V4Block.beVal_base]
  have hbase : b.base / 2 ^ (32 - b.ones) * 2 ^ (32 - b.ones) = b.base := b.base_div_mul
  rw [hbase]
  rfl

/-- The broadcast address of a block is its last address. -/
theorem broadcastIP_cidr (b : V4Block) :
    broadcastIP b.cidr.ipnet = .ok (beBytes 4 (b.base + b.size - 1)) := by
  have hlen : (List.zipWith (fun x m => x ||| ~~~m) (beBytes 4 b.base) (maskBytes 4 b.ones)).length
      = 4 := by simp
  have hval := beVal_or_not_maskBytes 4 b.ones (beBytes 4 b.base) (length_beBytes 4 b.base)
    b.ones_le
  rw [show 8 * 4 = 32 from rfl, show 2 ^ (32 - b.ones) = b.size from rfl, V4Block.beVal_base,
    b.base_div_mul] at hval
  unfold broadcastIP
  simp only [V4Block.cidr, v4CIDR, length_beBytes, length_maskBytes, Nat.lt_irrefl, if_false,
    Nat.sub_self, List.take_zero, List.drop_zero, List.nil_append]
  rw [← beBytes_beVal (List.zipWith _ _ _), hlen, hval]
  congr 2
  have := b.size_pos
  show b.base + (b.size - 1) = b.base + b.size - 1
  omega

/-- `IncrIP` on the sixteen-byte form of an IPv4 address below the top one. -/
theorem IncrIP_v4 {y : Nat} (hy : y + 1 < 2 ^ 32) :
    IncrIP (v4InV6Prefix ++ beBytes 4 y) = v4InV6Prefix ++ beBytes 4 (y + 1) := by
  have hpre : beVal v4InV6Prefix = 65535 := by decide
  rw [← beVal_inj_iff (by simp [length_IncrIP]), beVal_IncrIP, beVal_append, beVal_append,
    hpre, length_beBytes, beVal_beBytes, beVal_beBytes, List.length_append, length_beBytes]
  have hlen : v4InV6Prefix.length = 12 := rfl
  rw [hlen]
  norm_num
  omega

/-- After the top IPv4 address, `IncrIP` carries into the prefix and leaves IPv4. -/
theorem IncrIP_v4_top :
    (IncrIP (v4InV6Prefix ++ beBytes 4 (2 ^ 32 - 1))).take 12 ≠ v4InV6Prefix := by
  decide

/-- `checkContiguous` compares the address after a broadcast address, in the sixteen-byte
    form, with a network of four bytes: they are equal exactly when the network is the next
    value, and never after the top address. -/
theorem Equal_IncrIP_v4 {y : Nat} (hy : y < 2 ^ 32) {q : IP} (hq : q.length = 4) :
    IP.Equal (IncrIP (v4InV6Prefix ++ beBytes 4 y)) q = decide (beVal q = y + 1) := by
  have hlen : (IncrIP (v4InV6Prefix ++ beBytes 4 y)).length = 16 := by
    rw [length_IncrIP, List.length_append, length_beBytes]
    rfl
  rw [Equal_of_length_sixteen hlen hq]
  by_cases htop : y + 1 < 2 ^ 32
  · have hpre : (v4InV6Prefix ++ beBytes 4 (y + 1)).take 12 = v4InV6Prefix :=
      List.take_left' rfl
    have hrest : (v4InV6Prefix ++ beBytes 4 (y + 1)).drop 12 = beBytes 4 (y + 1) :=
      List.drop_left' rfl
    have hval : beBytes 4 (y + 1) = q ↔ beVal q = y + 1 := by
      rw [← beVal_inj_iff (by rw [length_beBytes, hq]), beVal_beBytes,
        Nat.mod_eq_of_lt (by simpa using htop), eq_comm]
    rw [IncrIP_v4 htop, hpre, hrest, beq_self_eq_true, Bool.true_and, Bool.eq_iff_iff, beq_iff_eq,
      hval, decide_eq_true_iff]
  · -- the top address: `IncrIP` carries into the prefix, and no four bytes reach `2 ^ 32`
    have hy' : y = 2 ^ 32 - 1 := by omega
    have hq' : beVal q < 2 ^ 32 := by simpa [hq] using beVal_lt q
    have hcarry : ((IncrIP (v4InV6Prefix ++ beBytes 4 (2 ^ 32 - 1))).take 12 == v4InV6Prefix) =
        false := beq_eq_false_iff_ne.mpr IncrIP_v4_top
    rw [hy', hcarry, Bool.false_and, eq_comm, decide_eq_false_iff_not]
    omega

/-! ## SubNetting -/

/-- The network `10.0.0.0/24`. -/
def tenNet : V4Block := ⟨0x0a000000, 24, by decide, by decide, by decide⟩


/-- `n` blocks of `s` addresses from `x`, the first split off. -/
theorem map_range_succ (f : Nat → CIDR) (x s n : Nat) :
    (List.range (n + 1)).map (fun i => f (x + i * s)) =
      f x :: (List.range n).map fun i => f (x + s + i * s) := by
  rw [List.range_succ_eq_map, List.map_cons, List.map_map, Nat.zero_mul, Nat.add_zero]
  congr 1
  apply List.map_congr_left
  intro i _
  show f (x + (i + 1) * s) = f (x + s + i * s)
  rw [Nat.add_one_mul, Nat.add_comm (i * s) s, Nat.add_assoc]

/-- The loop of `SubNetting` from an aligned address: `num` blocks of `n` ones, one after
    the other. It reads the network only through its text, which is the address in either
    form; after the last block it reads nothing, so the carry past the top address of a split
    that ends there is never seen. -/
theorem subnetLoop_v4 (v6 : V6Text) {n : Nat} (hn : n ≤ 32) :
    ∀ (num x : Nat) (network : IP), x % 2 ^ (32 - n) = 0 → x + num * 2 ^ (32 - n) ≤ 2 ^ 32 →
      (0 < num → IP.String v6 network = dotted (beBytes 4 x)) →
      subnetLoop v6 n num network =
        .ok ((List.range num).map fun i => v4CIDR (x + i * 2 ^ (32 - n)) n)
  | 0, _, _, _, _, _ => rfl
  | num + 1, x, network, halign, hle, hnet => by
    have hs := Nat.two_pow_pos (32 - n)
    have hnum : 2 ^ (32 - n) + num * 2 ^ (32 - n) = (num + 1) * 2 ^ (32 - n) := by ring
    have hx : x < 2 ^ 32 := by omega
    -- the block at `x`, as the text of `network` parses
    have hparse : ParseCIDR v6 ((dotted (beBytes 4 x)).toList ++ '/' ::
        (toString (n : Int)).toList) = some (v4InV6Prefix ++ beBytes 4 x, (v4CIDR x n).ipnet) :=
      ParseCIDR_cidr v6 ⟨x, n, hn, hx, halign⟩
    have hbcst : broadcastIP (v4CIDR x n).ipnet =
        .ok (beBytes 4 (x + 2 ^ (32 - n) - 1)) := broadcastIP_cidr ⟨x, n, hn, hx, halign⟩
    -- the next network is the address after the broadcast address, in the sixteen-byte form
    have hnext : 0 < num → IP.String v6 (IncrIP (ParseIP v6
        (IP.String v6 (beBytes 4 (x + 2 ^ (32 - n) - 1))).toList)) =
          dotted (beBytes 4 (x + 2 ^ (32 - n))) := by
      intro hpos
      have hmore : 2 ^ (32 - n) ≤ num * 2 ^ (32 - n) := Nat.le_mul_of_pos_left _ hpos
      have hq : (beBytes 4 (x + 2 ^ (32 - n))).length = 4 := length_beBytes 4 _
      rw [ParseIP_String_beBytes, IncrIP_v4 (by omega), Nat.sub_add_cancel (by omega),
        String_of_To4 v6 (by rw [To4_v4InV6Prefix_append hq, hq]), To4_v4InV6Prefix_append hq]
    have hrest := subnetLoop_v4 v6 hn num (x + 2 ^ (32 - n)) _
      (by rw [Nat.add_mod_right, halign]) (by omega) hnext
    rw [subnetLoop, hnet (Nat.succ_pos num), hparse]
    dsimp only
    rw [hbcst]
    dsimp only
    rw [hrest, map_range_succ (fun y => v4CIDR y n)]
    rfl

theorem MaskSize_cidr (b : V4Block) : b.cidr.MaskSize = ((b.ones : Int), 32) := by
  have h := Size_maskBytes (show b.ones ≤ 8 * 4 by have := b.ones_le; omega)
  exact h

/-- Go's check of `num` passes on a power of two. -/
theorem pow_passes_check (j : Nat) : ¬ (((2 ^ j : Nat) : Int) < 1 ∨ ((2 ^ j : Nat) : Int).toNat &&&
    (((2 ^ j : Nat) : Int).toNat - 1) ≠ 0) := by
  rw [Int.toNat_natCast, Nat.and_two_pow_sub_one_eq_mod, Nat.mod_self]
  have := Nat.two_pow_pos j
  omega

/-- The loop of `SubNetting` from the base of a block, with `j` more bits. -/
theorem subnetLoop_block (v6 : V6Text) (b : V4Block) {j : Nat} (hj : b.ones + j ≤ 32) :
    subnetLoop v6 ((b.ones + j : Nat) : Int) (2 ^ j) (beBytes 4 b.base) =
      .ok ((List.range (2 ^ j)).map fun i =>
        v4CIDR (b.base + i * 2 ^ (32 - (b.ones + j))) (b.ones + j)) := by
  apply subnetLoop_v4 v6 hj
  · exact Nat.mod_eq_zero_of_dvd (Nat.dvd_trans (Nat.pow_dvd_pow 2 (by omega))
      (Nat.dvd_of_mod_eq_zero b.aligned))
  · rw [b.pow_mul_size_sub hj]
    exact b.add_size_le
  · exact fun _ => String_of_length v6 (length_beBytes 4 b.base)

/-- `SubNetting` by the subnet number splits a block into `2 ^ j` blocks of `j` more bits,
    one after the other from its base. -/
theorem SubNetting_v4 (v6 : V6Text) (b : V4Block) {j : Nat} (hj : b.ones + j ≤ 32) :
    b.cidr.SubNetting v6 subnettingMethodSubnetNum ((2 ^ j : Nat) : Int) =
      .ok ((List.range (2 ^ j)).map fun i =>
        v4CIDR (b.base + i * 2 ^ (32 - (b.ones + j))) (b.ones + j)) := by
  unfold CIDR.SubNetting
  rw [if_neg (pow_passes_check j), Int.toNat_natCast, Nat.log2_two_pow, MaskSize_cidr]
  simp only [subnettingMethodSubnetNum, if_true]
  rw [if_neg (by omega), show (b.ones : Int) + (j : Int) = ((b.ones + j : Nat) : Int) by push_cast; rfl]
  exact subnetLoop_block v6 b hj

/-- The networks `SubNetting` returns are the blocks of the split. -/
theorem mem_map_range_sub (b : V4Block) {j : Nat} (hj : b.ones + j ≤ 32) (c : CIDR) :
    c ∈ (List.range (2 ^ j)).map (fun i => v4CIDR (b.base + i * 2 ^ (32 - (b.ones + j)))
      (b.ones + j)) ↔ ∃ i, ∃ hi : i < 2 ^ j, c = (b.sub hj i hi).cidr := by
  simp only [List.mem_map, List.mem_range]
  constructor
  · rintro ⟨i, hi, rfl⟩
    exact ⟨i, hi, rfl⟩
  · rintro ⟨i, hi, rfl⟩
    exact ⟨i, hi, rfl⟩

/-- `SubNetting` by the subnet number on an IPv4 block returns `2 ^ j` networks of `j` more
    bits, each starting at the address after the broadcast address of the one before; no
    address is in two of them, and together they hold exactly the addresses of the block. -/
theorem SubNetting_partitions (v6 : V6Text) (b : V4Block) {j : Nat} (hj : b.ones + j ≤ 32) :
    ∃ cs, b.cidr.SubNetting v6 subnettingMethodSubnetNum ((2 ^ j : Nat) : Int) = .ok cs ∧
      cs.length = 2 ^ j ∧
      (∀ c ∈ cs, c.MaskSize = (((b.ones + j : Nat) : Int), 32)) ∧
      cs.Pairwise (fun c d => ∀ ip, ¬ (c.ipnet.Contains ip = true ∧ d.ipnet.Contains ip = true)) ∧
      cs.IsChain (fun c d => ∃ bc, broadcastIP c.ipnet = .ok bc ∧
        beVal bc + 1 = beVal d.ipnet.IP) ∧
      ∀ ip, (∃ c ∈ cs, c.ipnet.Contains ip = true) ↔ b.cidr.ipnet.Contains ip = true := by
  refine ⟨_, SubNetting_v4 v6 b hj, by simp, ?_, ?_, ?_, ?_⟩
  · -- every block has the longer prefix
    intro c hc
    obtain ⟨i, hi, rfl⟩ := (mem_map_range_sub b hj c).mp hc
    exact MaskSize_cidr (b.sub hj i hi)
  · -- blocks at two positions share no address
    rw [List.pairwise_map]
    refine List.pairwise_lt_range.imp_of_mem ?_
    intro i i' hmem hmem' hlt ip ⟨hc, hc'⟩
    have hi := List.mem_range.mp hmem
    have hi' := List.mem_range.mp hmem'
    have hin := ((Contains_cidr (b.sub hj i hi) ip).mp hc).2
    have hin' := ((Contains_cidr (b.sub hj i' hi') ip).mp hc').2
    exact b.disjoint_sub hj hi hi' (Nat.ne_of_lt hlt) _ hin hin'
  · -- each block starts at the address after the broadcast address of the one before
    rw [List.isChain_map, List.isChain_range]
    intro m hm
    have hi : m < 2 ^ j := by omega
    have hi' : m + 1 < 2 ^ j := by omega
    refine ⟨_, broadcastIP_cidr (b.sub hj m hi), ?_⟩
    rw [V4Block.beVal_last_add_one, ← b.sub_succ_base hj hi hi']
    exact (V4Block.beVal_base (b.sub hj (m + 1) hi')).symm
  · -- the blocks hold the addresses of the block
    intro ip
    rw [Contains_cidr]
    constructor
    · rintro ⟨c, hc, hcont⟩
      obtain ⟨i, hi, rfl⟩ := (mem_map_range_sub b hj c).mp hc
      obtain ⟨hlen, hin⟩ := (Contains_cidr _ ip).mp hcont
      exact ⟨hlen, (b.mem_addrs_iff_sub hj _).mpr ⟨i, hi, hin⟩⟩
    · rintro ⟨hlen, hin⟩
      obtain ⟨i, hi, hin'⟩ := (b.mem_addrs_iff_sub hj _).mp hin
      exact ⟨_, (mem_map_range_sub b hj _).mpr ⟨i, hi, rfl⟩,
        (Contains_cidr _ ip).mpr ⟨hlen, hin'⟩⟩

theorem SubNetting_partitions_tenNet :
    ∃ cs, tenNet.cidr.SubNetting noV6Text subnettingMethodSubnetNum ((2 ^ 2 : Nat) : Int) = .ok cs ∧
      cs.length = 2 ^ 2 ∧
      (∀ c ∈ cs, c.MaskSize = (((tenNet.ones + 2 : Nat) : Int), 32)) ∧
      cs.Pairwise (fun c d => ∀ ip, ¬ (c.ipnet.Contains ip = true ∧ d.ipnet.Contains ip = true)) ∧
      cs.IsChain (fun c d => ∃ bc, broadcastIP c.ipnet = .ok bc ∧
        beVal bc + 1 = beVal d.ipnet.IP) ∧
      ∀ ip, (∃ c ∈ cs, c.ipnet.Contains ip = true) ↔ tenNet.cidr.ipnet.Contains ip = true :=
  SubNetting_partitions noV6Text tenNet (by decide)

end OsmEdge.Cidr
