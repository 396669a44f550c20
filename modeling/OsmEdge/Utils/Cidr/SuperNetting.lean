import OsmEdge.Utils.Cidr.Blocks

/-
  `SuperNetting` (`pkg/utils/cidr/cidr.go`) on texts of IPv4 networks.

  Its first loop parses every text and requires the mask of the first (`parseSameMask_ok`), its
  second requires each network of the sorted list to start at the address after the broadcast
  address of the one before (`checkContiguous_iff`): the networks are then blocks in a row
  (`InRow`), and hold the interval from the lowest base over their number times their size
  (`InRow.mem_addrs_iff`). The result keeps the lowest network's address and shortens its mask
  by the exponent of their number. `IP.Mask`, which would align the address, is called and
  its result dropped, and nothing else checks that the lowest base is aligned to the new size:
  the result holds the aligned block around it, and the networks' addresses exactly when the
  lowest base is aligned (`SuperNetting_union_iff_aligned`).

  `pdqsort` stands for `sort.Slice` on more than twelve networks; only that it permutes them is
  used, so the sort's order plays no part.
-/

namespace OsmEdge.Cidr

open GoNet Bytes

/-! ## Go's power-of-two test -/

/-- Go's test `n&(n-1) == 0`: a positive `n` passes exactly when it is a power of two. -/
theorem and_sub_one_eq_zero_iff {n : Nat} (hn : 0 < n) : n &&& (n - 1) = 0 ↔ n = 2 ^ n.log2 := by
  constructor
  · intro h
    have hlo := Nat.log2_self_le (Nat.ne_of_gt hn)
    have hhi := Nat.lt_log2_self (n := n)
    generalize n.log2 = k at hlo hhi ⊢
    by_contra hne
    -- otherwise `n` and `n - 1` share the bit `k`
    obtain ⟨r, rfl⟩ : ∃ r, n = 2 ^ k + r := ⟨n - 2 ^ k, by omega⟩
    have hrlt : r < 2 ^ k := by rw [pow_succ] at hhi; omega
    have hbit : ((2 ^ k + r) &&& (2 ^ k + r - 1)).testBit k = true := by
      rw [Nat.testBit_and, show 2 ^ k + r - 1 = 2 ^ k + (r - 1) by omega,
        Nat.testBit_two_pow_add_eq, Nat.testBit_two_pow_add_eq,
        Nat.testBit_lt_two_pow hrlt, Nat.testBit_lt_two_pow (by omega)]
      rfl
    rw [h, Nat.zero_testBit] at hbit
    exact Bool.false_ne_true hbit
  · intro h
    rw [h, Nat.and_two_pow_sub_one_eq_mod, Nat.mod_self]

/-! ## The first loop -/

section loops

variable (v6 : V6Text)

/-- The first loop of `SuperNetting`: every text parsed, in order, and once a mask is set
    every network has it. -/
theorem parseSameMask_ok : ∀ (ns : List String) (mask : String) (cs : List CIDR),
    parseSameMask v6 mask ns = .ok cs →
      ns.map (fun s => (ParseCIDR v6 s.toList).map fun p => (⟨p.2⟩ : CIDR)) = cs.map some ∧
      (mask.length ≠ 0 → ∀ c ∈ cs, c.Mask v6 = mask) ∧
      cs.Pairwise fun c c' => (c.Mask v6).length ≠ 0 → c'.Mask v6 = c.Mask v6
  | [], mask, cs, h => by
    cases h
    exact ⟨rfl, fun _ c hc => absurd hc List.not_mem_nil, List.Pairwise.nil⟩
  | s :: ns, mask, cs, h => by
    unfold parseSameMask at h
    split at h
    · cases h
    · rename_i ip ipnet hparse
      have hhead : (ParseCIDR v6 s.toList).map (fun p => (⟨p.2⟩ : CIDR)) = some ⟨ipnet⟩ := by
        rw [hparse]
        rfl
      split at h
      · -- the first network sets the mask
        rename_i hzero
        obtain ⟨cs', hrest, rfl⟩ := (ExceptLoop.map_eq_ok_iff _ _ _).mp h
        obtain ⟨hmap, hmask, hpair⟩ := parseSameMask_ok ns _ cs' hrest
        refine ⟨by rw [List.map_cons, List.map_cons, hhead, hmap], fun hne => absurd hzero hne,
          List.Pairwise.cons (fun c' hc' hne => hmask hne c' hc') hpair⟩
      · dsimp only at h
        split at h
        · cases h
        · -- a later network has the mask set
          rename_i hzero hsame
          have hc : (⟨ipnet⟩ : CIDR).Mask v6 = mask := not_not.mp hsame
          obtain ⟨cs', hrest, rfl⟩ := (ExceptLoop.map_eq_ok_iff _ _ _).mp h
          obtain ⟨hmap, hmask, hpair⟩ := parseSameMask_ok ns _ cs' hrest
          refine ⟨by rw [List.map_cons, List.map_cons, hhead, hmap], ?_, ?_⟩
          · intro _ c hc'
            rcases List.mem_cons.mp hc' with rfl | hc'
            · exact hc
            · exact hmask hzero c hc'
          · exact List.Pairwise.cons (fun c' hc' _ => (hmask hzero c' hc').trans hc.symm) hpair

/-- The union of the networks of texts: the addresses some text's network contains. -/
def textsContain (ns : List String) (ip : IP) : Prop :=
  ∃ s ∈ ns, ∃ ip' net, ParseCIDR v6 s.toList = some (ip', net) ∧ net.Contains ip = true

/-- The networks of the first loop hold what the networks of the texts hold. -/
theorem textsContain_iff {ns : List String} {cs : List CIDR}
    (hmap : ns.map (fun s => (ParseCIDR v6 s.toList).map fun p => (⟨p.2⟩ : CIDR)) = cs.map some)
    (ip : IP) : textsContain v6 ns ip ↔ ∃ c ∈ cs, c.ipnet.Contains ip = true := by
  constructor
  · rintro ⟨s, hs, ip', net, hparse, hcont⟩
    have hmem : some (⟨net⟩ : CIDR) ∈ cs.map some := by
      rw [← hmap]
      exact List.mem_map.mpr ⟨s, hs, by rw [hparse]; rfl⟩
    obtain ⟨c, hc, hceq⟩ := List.mem_map.mp hmem
    obtain rfl := Option.some.inj hceq
    exact ⟨_, hc, hcont⟩
  · rintro ⟨c, hc, hcont⟩
    have hmem : some c ∈ ns.map (fun s => (ParseCIDR v6 s.toList).map fun p => (⟨p.2⟩ : CIDR)) := by
      rw [hmap]
      exact List.mem_map_of_mem hc
    obtain ⟨s, hs, hsc⟩ := List.mem_map.mp hmem
    obtain ⟨⟨ip', net⟩, hparse, rfl⟩ := Option.map_eq_some_iff.mp hsc
    exact ⟨s, hs, ip', net, hparse, hcont⟩

/-- On texts of IPv4 networks the first loop returns blocks of one prefix length. -/
theorem blocks_of_parseSameMask {ns : List String} {cs : List CIDR}
    (hns : ∀ s ∈ ns, ∃ b : V4Block, ∃ ip, ParseCIDR v6 s.toList = some (ip, b.cidr.ipnet))
    (h : parseSameMask v6 "" ns = .ok cs) :
    ∃ n, ∀ c ∈ cs, ∃ b : V4Block, b.ones = n ∧ c = b.cidr := by
  obtain ⟨hmap, -, hpair⟩ := parseSameMask_ok v6 ns "" cs h
  -- each network is the block of its text
  have hblock : ∀ c ∈ cs, ∃ b : V4Block, c = b.cidr := by
    intro c hc
    have hmem : some c ∈ ns.map (fun s => (ParseCIDR v6 s.toList).map fun p => (⟨p.2⟩ : CIDR)) := by
      rw [hmap]
      exact List.mem_map_of_mem hc
    obtain ⟨s, hs, hsc⟩ := List.mem_map.mp hmem
    obtain ⟨b, ip, hparse⟩ := hns s hs
    rw [hparse] at hsc
    exact ⟨b, (Option.some.inj hsc).symm⟩
  -- and all have the mask text of any one of them
  have hsame : ∀ c ∈ cs, ∀ c' ∈ cs, c.Mask v6 = c'.Mask v6 := by
    have hne : ∀ c ∈ cs, (c.Mask v6).length ≠ 0 := by
      intro c hc
      obtain ⟨b, rfl⟩ := hblock c hc
      exact length_Mask_cidr_ne_zero v6 b
    refine List.Pairwise.forall_of_forall_of_flip (fun _ _ => rfl) ?_ ?_
    · exact hpair.imp_of_mem fun hc _ h => (h (hne _ hc)).symm
    · exact hpair.imp_of_mem fun hc _ h => h (hne _ hc)
  cases cs with
  | nil => exact ⟨0, fun c hc => absurd hc List.not_mem_nil⟩
  | cons c₀ cs =>
    obtain ⟨b₀, rfl⟩ := hblock c₀ List.mem_cons_self
    refine ⟨b₀.ones, fun c hc => ?_⟩
    obtain ⟨b, rfl⟩ := hblock c hc
    exact ⟨b, ones_eq_of_Mask_eq v6 (hsame _ hc _ List.mem_cons_self), rfl⟩

/-! ## The second loop -/

/-- Blocks one after the other from the address `x`. -/
def InRow : Nat → List V4Block → Prop
  | _, [] => True
  | x, b :: bs => b.base = x ∧ InRow (b.base + b.size) bs

theorem InRow_cons {x : Nat} {b : V4Block} {bs : List V4Block} :
    InRow x (b :: bs) ↔ b.base = x ∧ InRow (b.base + b.size) bs := Iff.rfl

/-- After a block, the second loop accepts networks of blocks exactly when they are in a row
    from the block's end: it compares each with the address after the broadcast address of
    the one before, in the sixteen-byte form. -/
theorem checkContiguous_iff : ∀ (b : V4Block) (bs : List V4Block),
    checkContiguous v6 (IncrIP (v4InV6Prefix ++ beBytes 4 (b.base + b.size - 1)))
      (bs.map V4Block.cidr) = .ok () ↔ InRow (b.base + b.size) bs
  | _, [] => by simp [checkContiguous, InRow]
  | b, b' :: bs => by
    have hpos := b.size_pos
    have hlast : b.base + b.size - 1 < 2 ^ 32 := by
      have := b.add_size_le
      omega
    have hlen : 0 < (IncrIP (v4InV6Prefix ++ beBytes 4 (b.base + b.size - 1))).length := by
      rw [length_IncrIP]
      simp
    have heq : IP.Equal (IncrIP (v4InV6Prefix ++ beBytes 4 (b.base + b.size - 1)))
        b'.cidr.ipnet.IP = decide (b'.base = b.base + b.size) := by
      show IP.Equal _ (beBytes 4 b'.base) = _
      rw [Equal_IncrIP_v4 hlast (length_beBytes 4 b'.base), V4Block.beVal_base,
        Nat.sub_add_cancel (by omega : 1 ≤ b.base + b.size)]
    rw [List.map_cons, checkContiguous, heq, InRow_cons]
    by_cases hb : b'.base = b.base + b.size
    · rw [if_neg (by simp [hb]), broadcastIP_cidr]
      dsimp only
      rw [ParseIP_String_beBytes, checkContiguous_iff b' bs]
      simp [hb]
    · rw [if_pos ⟨hlen, by simp [hb]⟩]
      simp [hb]

/-- The second loop of `SuperNetting`, which starts with no address to compare. -/
theorem checkContiguous_nil_iff (b : V4Block) (bs : List V4Block) :
    checkContiguous v6 [] ((b :: bs).map V4Block.cidr) = .ok () ↔ InRow b.base (b :: bs) := by
  rw [List.map_cons, checkContiguous, if_neg (by simp), broadcastIP_cidr]
  dsimp only
  rw [ParseIP_String_beBytes, checkContiguous_iff v6 b bs, InRow_cons]
  simp

end loops

section row

variable {n : Nat}

/-- Blocks of `n` ones in a row from `x` hold the addresses from `x` over their number times
    their size. -/
theorem InRow.mem_addrs_iff : ∀ {x : Nat} {bs : List V4Block}, InRow x bs →
    (∀ b ∈ bs, b.ones = n) →
    ∀ v, (∃ b ∈ bs, v ∈ b.addrs) ↔ x ≤ v ∧ v < x + bs.length * 2 ^ (32 - n)
  | x, [], _, _, v => by simp
  | x, b :: bs, hrow, hones, v => by
    obtain ⟨hbase, hrest⟩ := hrow
    have hsize : b.size = 2 ^ (32 - n) := by rw [V4Block.size, hones b List.mem_cons_self]
    have ih := InRow.mem_addrs_iff hrest (fun b' hb' => hones b' (List.mem_cons_of_mem b hb')) v
    simp only [List.mem_cons, or_and_right, exists_or, exists_eq_left]
    rw [ih, V4Block.addrs, Set.mem_Ico, hsize, hbase, List.length_cons, Nat.add_one_mul]
    omega

/-- Blocks in a row end at the top of the address space at the latest. -/
theorem InRow.add_le : ∀ {x : Nat} {b : V4Block} {bs : List V4Block}, InRow x (b :: bs) →
    (∀ b' ∈ b :: bs, b'.ones = n) → x + (bs.length + 1) * 2 ^ (32 - n) ≤ 2 ^ 32
  | x, b, [], hrow, hones => by
    have hend := b.add_size_le
    rw [V4Block.size, hones b List.mem_cons_self, hrow.1] at hend
    simpa using hend
  | x, b, b' :: bs, hrow, hones => by
    obtain ⟨hbase, hrest⟩ := hrow
    have ih := InRow.add_le hrest (fun c hc => hones c (List.mem_cons_of_mem b hc))
    rw [V4Block.size, hones b List.mem_cons_self, hbase] at ih
    rw [List.length_cons, Nat.add_one_mul]
    omega

end row

/-! ## SuperNetting -/

/-- A list whose every element is the image of one with `P` is the image of a list of such. -/
theorem exists_eq_map_of_forall_mem {α β : Type*} {f : α → β} {P : α → Prop} :
    ∀ {l : List β}, (∀ c ∈ l, ∃ a, P a ∧ c = f a) → ∃ as : List α, l = as.map f ∧ ∀ a ∈ as, P a
  | [], _ => ⟨[], rfl, fun _ h => absurd h List.not_mem_nil⟩
  | c :: l, h => by
    obtain ⟨a, ha, rfl⟩ := h c List.mem_cons_self
    obtain ⟨as, rfl, has⟩ := exists_eq_map_of_forall_mem fun c hc => h c (List.mem_cons_of_mem _ hc)
    exact ⟨a :: as, rfl, fun a' ha' => (List.mem_cons.mp ha').elim (fun e => e ▸ ha) (has a')⟩

/-- An address and the aligned block of size `S` it is in: that block is the one from the
    address on exactly when the address is aligned. -/
theorem forall_div_eq_iff_mod_eq_zero {x S N : Nat} (hS : 0 < S) (hx : x < N) :
    (∀ v < N, (x / S = v / S ↔ x ≤ v ∧ v < x + S)) ↔ x % S = 0 := by
  constructor
  · intro h
    -- the aligned address below `x` agrees with it, so it is not below it
    have hsplit := Nat.div_add_mod x S
    have hle := Nat.mod_le x S
    have hdiv : x / S = (x - x % S) / S := by
      rw [show x - x % S = S * (x / S) by omega, Nat.mul_div_cancel_left _ hS]
    have := ((h (x - x % S) (by omega)).mp hdiv).1
    omega
  · intro hmod v _
    exact div_eq_div_iff_of_mod_eq_zero hS hmod

section SuperNetting

variable (v6 : V6Text) {pdqsort : List CIDR → List CIDR}

/-- What `SuperNetting` computes on texts of IPv4 networks, when it returns a network: their
    number is `2 ^ j`, they are blocks of one prefix length in a row from the lowest, which is
    the first of the sorted list, and the result is that block with the mask of `j` fewer
    ones. -/
theorem SuperNetting_ok_blocks (hperm : ∀ cs, (pdqsort cs).Perm cs) {ns : List String}
    (hns : ∀ s ∈ ns, ∃ b : V4Block, ∃ ip, ParseCIDR v6 s.toList = some (ip, b.cidr.ipnet))
    {r : CIDR} (h : SuperNetting v6 pdqsort ns = .ok r) :
    ∃ (b₀ : V4Block) (bs : List V4Block), ns.length = 2 ^ ns.length.log2 ∧
      bs.length + 1 = ns.length ∧ (∀ b ∈ b₀ :: bs, b.ones = b₀.ones) ∧
      InRow b₀.base (b₀ :: bs) ∧
      (∀ ip, textsContain v6 ns ip ↔ ∃ b ∈ b₀ :: bs, b.cidr.ipnet.Contains ip = true) ∧
      r = ⟨{ b₀.cidr.ipnet with Mask := CIDRMask ((b₀.ones : Int) - ns.length.log2) 32 }⟩ := by
  unfold SuperNetting at h
  dsimp only at h
  by_cases hnum : ns.length < 1 ∨ ns.length &&& (ns.length - 1) ≠ 0
  · rw [if_pos hnum] at h
    cases h
  rw [if_neg hnum] at h
  rcases hparse : parseSameMask v6 "" ns with e | cidrs
  · simp [hparse] at h
  rw [hparse] at h
  dsimp only at h
  rcases hcc : checkContiguous v6 [] (AscSortCIDRs pdqsort cidrs) with e | ⟨⟩
  · simp [hcc] at h
  rw [hcc] at h
  dsimp only at h
  rcases hsorted : AscSortCIDRs pdqsort cidrs with _ | ⟨c₀, rest⟩
  · simp [hsorted] at h
  rw [hsorted] at h
  dsimp only at h
  -- the number of networks is a power of two
  have hpow : ns.length = 2 ^ ns.length.log2 :=
    (and_sub_one_eq_zero_iff (by omega)).mp (by omega)
  -- the sorted networks are the parsed ones, blocks of one prefix length
  obtain ⟨hmap, -, -⟩ := parseSameMask_ok v6 ns "" cidrs hparse
  obtain ⟨n, hblocks⟩ := blocks_of_parseSameMask v6 hns hparse
  have hperm' : (AscSortCIDRs pdqsort cidrs).Perm cidrs := GoSort.perm_sort ascLess hperm cidrs
  rw [hsorted] at hperm'
  obtain ⟨bs, hbs, hones⟩ := exists_eq_map_of_forall_mem (P := fun b : V4Block => b.ones = n)
    fun c hc => hblocks c (hperm'.mem_iff.mp hc)
  obtain ⟨b₀, bs, rfl, rfl⟩ : ∃ b₀ bs', bs = b₀ :: bs' ∧ c₀ = b₀.cidr := by
    cases bs with
    | nil => cases hbs
    | cons b₀ bs' => exact ⟨b₀, bs', rfl, (List.cons.inj hbs).1⟩
  have hlen : (b₀ :: bs).length = ns.length := by
    have := congrArg List.length hmap
    rw [List.length_map, List.length_map] at this
    rw [this, ← hperm'.length_eq, hbs, List.length_map]
  refine ⟨b₀, bs, hpow, hlen, fun b hb => (hones b hb).trans (hones b₀ List.mem_cons_self).symm,
    ?_, ?_, ?_⟩
  · -- the second loop found the blocks in a row
    rw [hsorted, hbs] at hcc
    exact (checkContiguous_nil_iff v6 b₀ bs).mp hcc
  · -- the texts hold what the sorted blocks hold
    intro ip
    rw [textsContain_iff v6 hmap]
    constructor
    · rintro ⟨c, hc, hcont⟩
      obtain ⟨b, hb, rfl⟩ := List.mem_map.mp (hbs ▸ hperm'.mem_iff.mpr hc)
      exact ⟨b, hb, hcont⟩
    · rintro ⟨b, hb, hcont⟩
      exact ⟨b.cidr, hperm'.mem_iff.mp (hbs ▸ List.mem_map_of_mem hb), hcont⟩
  · -- the result: the lowest block's address, with the shortened mask
    rw [MaskSize_cidr] at h
    exact (Except.ok.inj h).symm

/-- `SuperNetting` on texts of IPv4 networks, when it returns a network: the texts are `2 ^ j`
    blocks of one prefix length in a row from the lowest base, and the result is the lowest
    base with `j` fewer ones. The networks of the texts hold the addresses from the lowest base
    over the result's size; the result holds the aligned block of that size around the lowest
    base, which is the same set exactly when the lowest base is aligned to it. -/
theorem SuperNetting_union_iff_aligned (hperm : ∀ cs, (pdqsort cs).Perm cs) {ns : List String}
    (hns : ∀ s ∈ ns, ∃ b : V4Block, ∃ ip, ParseCIDR v6 s.toList = some (ip, b.cidr.ipnet))
    {r : CIDR} (h : SuperNetting v6 pdqsort ns = .ok r) :
    ∃ (b : V4Block) (j : Nat), ns.length = 2 ^ j ∧ j ≤ b.ones ∧ r = v4CIDR b.base (b.ones - j) ∧
      (∀ ip, textsContain v6 ns ip ↔ ip.To4.length = 4 ∧ b.base ≤ beVal ip.To4 ∧
        beVal ip.To4 < b.base + 2 ^ (32 - (b.ones - j))) ∧
      ((∀ ip, r.ipnet.Contains ip = true ↔ textsContain v6 ns ip) ↔
        b.base % 2 ^ (32 - (b.ones - j)) = 0) := by
  obtain ⟨b₀, bs, hpow, hlen, hones, hrow, htexts, hr⟩ := SuperNetting_ok_blocks v6 hperm hns h
  generalize ns.length.log2 = j at hpow hr
  have hones_le := b₀.ones_le
  -- the blocks end at the top of the address space at the latest, so `j` bits fit the prefix
  have hjle : j ≤ b₀.ones := by
    have hend := hrow.add_le hones
    rw [hlen, hpow, ← pow_add] at hend
    have hpowle : 2 ^ (j + (32 - b₀.ones)) ≤ 2 ^ 32 := by omega
    have := (Nat.pow_le_pow_iff_right (by norm_num : 1 < 2)).mp hpowle
    omega
  have hsize : (bs.length + 1) * 2 ^ (32 - b₀.ones) = 2 ^ (32 - (b₀.ones - j)) := by
    rw [hlen, hpow, ← pow_add]
    congr 1
    omega
  -- the networks of the texts hold the interval from the lowest base
  have hunion : ∀ ip, textsContain v6 ns ip ↔ ip.To4.length = 4 ∧ b₀.base ≤ beVal ip.To4 ∧
      beVal ip.To4 < b₀.base + 2 ^ (32 - (b₀.ones - j)) := by
    intro ip
    have hrange := hrow.mem_addrs_iff hones (beVal ip.To4)
    rw [List.length_cons, hsize] at hrange
    rw [htexts, ← hrange]
    constructor
    · rintro ⟨b, hb, hcont⟩
      obtain ⟨hl, hv⟩ := (Contains_cidr b ip).mp hcont
      exact ⟨hl, b, hb, hv⟩
    · rintro ⟨hl, b, hb, hv⟩
      exact ⟨b, hb, (Contains_cidr b ip).mpr ⟨hl, hv⟩⟩
  -- the result is the lowest base with `j` fewer ones, which holds the aligned block around it
  have hr' : r = v4CIDR b₀.base (b₀.ones - j) := by
    rw [hr, show (b₀.ones : Int) - j = ((b₀.ones - j : Nat) : Int) by omega,
      CIDRMask_v4 (by omega)]
    rfl
  have hcontains : ∀ ip, r.ipnet.Contains ip = true ↔ ip.To4.length = 4 ∧
      b₀.base / 2 ^ (32 - (b₀.ones - j)) = beVal ip.To4 / 2 ^ (32 - (b₀.ones - j)) := by
    intro ip
    have h4 := Contains_v4 (length_beBytes 4 b₀.base) (n := b₀.ones - j) (by omega) ip
    rw [V4Block.beVal_base] at h4
    rw [hr']
    exact h4
  refine ⟨b₀, j, hpow, hjle, hr', hunion, ?_⟩
  -- the union law, as a statement about the values of addresses
  simp only [hcontains, hunion]
  refine (forall_ip_iff (fun v => b₀.base / 2 ^ (32 - (b₀.ones - j)) = v / 2 ^ (32 - (b₀.ones - j)))
    (fun v => b₀.base ≤ v ∧ v < b₀.base + 2 ^ (32 - (b₀.ones - j)))).trans ?_
  exact forall_div_eq_iff_mod_eq_zero (Nat.two_pow_pos _) b₀.base_lt

end SuperNetting

/-- Two networks of 24 ones in a row from `10.0.1.0`, which is not aligned to 23 ones. -/
def tenNets : List String := ["10.0.1.0/24", "10.0.2.0/24"]

theorem SuperNetting_union_iff_aligned_tenNets :
    SuperNetting noV6Text id tenNets = .ok (v4CIDR 0x0a000100 23) ∧
      ∃ (b : V4Block) (j : Nat), tenNets.length = 2 ^ j ∧ j ≤ b.ones ∧
        v4CIDR 0x0a000100 23 = v4CIDR b.base (b.ones - j) ∧
        (∀ ip, textsContain noV6Text tenNets ip ↔ ip.To4.length = 4 ∧ b.base ≤ beVal ip.To4 ∧
          beVal ip.To4 < b.base + 2 ^ (32 - (b.ones - j))) ∧
        ((∀ ip, (v4CIDR 0x0a000100 23).ipnet.Contains ip = true ↔
          textsContain noV6Text tenNets ip) ↔ b.base % 2 ^ (32 - (b.ones - j)) = 0) := by
  have h : SuperNetting noV6Text id tenNets = .ok (v4CIDR 0x0a000100 23) := by decide
  have hns : ∀ s ∈ tenNets, ∃ b : V4Block, ∃ ip,
      ParseCIDR noV6Text s.toList = some (ip, b.cidr.ipnet) := by
    intro s hs
    simp only [tenNets, List.mem_cons, List.not_mem_nil, or_false] at hs
    rcases hs with rfl | rfl
    · exact ⟨⟨0x0a000100, 24, by decide, by decide, by decide⟩, IPv4 10 0 1 0, by decide⟩
    · exact ⟨⟨0x0a000200, 24, by decide, by decide, by decide⟩, IPv4 10 0 2 0, by decide⟩
  exact ⟨h, SuperNetting_union_iff_aligned noV6Text (fun _ => List.Perm.refl _) hns h⟩

end OsmEdge.Cidr
