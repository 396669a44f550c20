import OsmEdge.Utils.Cidr.Blocks

/-
  Walking the addresses of a network (`ForEachIP`, `ForEachIPBeginWith`,
  `pkg/utils/cidr/cidr.go`), and what `IPCount`, `IsIPv4` and `IsIPv6` read of the mask.

  Both walks hand the text of an address to the iterator while the network contains the
  address, then `IncrIP` it in place, and stop at the iterator's first error. The iterator is
  a Go closure: here it threads a state of its own (`iterator : σ → String → Except ε σ`).
  The loop runs on fuel; `none` is a walk that has not returned when the fuel runs out.

  `ForEachIP` starts from the network's address: four bytes for IPv4, on which `IncrIP` wraps
  from `255.255.255.255` to `0.0.0.0`. `ForEachIPBeginWith` starts from the parsed text:
  sixteen bytes, on which the carry out of `255.255.255.255` runs into the prefix and the
  address is no longer IPv4.

  Both runs are one lemma (`walk_v4`), on any form of the addresses that the network contains
  exactly on its values, that `IncrIP` steps through, and that leaves the network after its
  last address.

  Proved, for every IPv4 network:
  * `ForEachIP_v4`: with a prefix of at least one bit, the walk folds the iterator over the
    texts of the network's addresses in increasing order, `IPCount` of them, and returns once
    it has one turn more than that.
  * `ForEachIP_everything`: on `0.0.0.0/0` the walk never returns while the iterator does not
    fail: after `255.255.255.255` it is back at `0.0.0.0`.
  * `ForEachIPBeginWith_v4`: from an IPv4 address of the network, the walk folds the iterator
    over the addresses from it to the network's last one, on `0.0.0.0/0` too; from one outside
    it calls nothing.
-/

namespace OsmEdge.Cidr

open GoNet Bytes

/-! ## What the mask says -/

/-- `IsIPv4`: the mask is four bytes wide. -/
def CIDR.IsIPv4 (c : CIDR) : Bool := c.ipnet.Mask.Size.2.tdiv 8 == IPv4len

/-- `IsIPv6`: the mask is sixteen bytes wide. -/
def CIDR.IsIPv6 (c : CIDR) : Bool := c.ipnet.Mask.Size.2.tdiv 8 == IPv6len

/-- `IPCount`: `1 << (bits - ones)`, a `big.Int`. -/
def CIDR.IPCount (c : CIDR) : Nat := 2 ^ (c.ipnet.Mask.Size.2 - c.ipnet.Mask.Size.1).toNat

theorem IPCount_cidr (b : V4Block) : b.cidr.IPCount = b.size := by
  have h : b.cidr.ipnet.Mask.Size = ((b.ones : Int), 32) := MaskSize_cidr b
  simp only [CIDR.IPCount, h, V4Block.size]
  congr 1
  omega

/-! ## The walks -/

section walk

variable {σ ε : Type} (v6 : V6Text) (iterator : σ → String → Except ε σ)

/-- The loop of `ForEachIP` and `ForEachIPBeginWith` from `next`, with `fuel` turns. -/
def walk (n : IPNet) : Nat → IP → σ → Option (Except ε σ)
  | 0, _, _ => none
  | fuel + 1, next, s =>
    if n.Contains next then
      match iterator s (IP.String v6 next) with
      | .ok s' => walk n fuel (IncrIP next) s'
      | .error err => some (.error err)
    else some (.ok s)

/-- `ForEachIP`: the walk from a copy of the network's address. -/
def CIDR.ForEachIP (c : CIDR) (fuel : Nat) (s : σ) : Option (Except ε σ) :=
  walk v6 iterator c.ipnet fuel c.ipnet.IP s

/-- `ForEachIPBeginWith`: the walk from the parsed text. -/
def CIDR.ForEachIPBeginWith (c : CIDR) (beginIP : String) (fuel : Nat) (s : σ) :
    Option (Except ε σ) :=
  walk v6 iterator c.ipnet fuel (ParseIP v6 beginIP.toList) s

/-- The iterator on the dotted text of the address of value `a`. -/
def visit (s : σ) (a : Nat) : Except ε σ := iterator s (dotted (beBytes 4 a))

theorem walk_succ_of_contains {n : IPNet} {next : IP} (h : n.Contains next = true) (fuel : Nat)
    (s : σ) :
    walk v6 iterator n (fuel + 1) next s =
      match iterator s (IP.String v6 next) with
      | .ok s' => walk v6 iterator n fuel (IncrIP next) s'
      | .error err => some (.error err) := by
  rw [walk, if_pos h]

theorem walk_succ_of_not_contains {n : IPNet} {next : IP} (h : n.Contains next = false)
    (fuel : Nat) (s : σ) : walk v6 iterator n (fuel + 1) next s = some (.ok s) := by
  rw [walk, if_neg (by simp [h])]

/-- The addresses of a block in some form `addr`: the block contains exactly the ones of its
    values, each is written as its dotted text, `IncrIP` steps from one to the next, and the
    step after the last one leaves the block. -/
structure Walkable (b : V4Block) (addr : Nat → IP) : Prop where
  contains : ∀ a ∈ b.addrs, b.cidr.ipnet.Contains (addr a) = true
  text : ∀ a ∈ b.addrs, IP.String v6 (addr a) = dotted (beBytes 4 a)
  incr : ∀ a, a + 1 ∈ b.addrs → IncrIP (addr a) = addr (a + 1)
  last : b.cidr.ipnet.Contains (IncrIP (addr (b.base + b.size - 1))) = false

/-- The run: from the `k` last addresses of the block, the walk folds the iterator over them
    and returns, given one turn more. -/
theorem walk_v4 {b : V4Block} {addr : Nat → IP} (hw : Walkable v6 b addr) :
    ∀ (k a fuel : Nat) (s : σ), 1 ≤ k → a + k = b.base + b.size → b.base ≤ a → k < fuel →
      walk v6 iterator b.cidr.ipnet fuel (addr a) s =
        some ((List.range' a k).foldlM (visit iterator) s)
  | 0, _, _, _, hk, _, _, _ => absurd hk (by decide)
  | k + 1, a, fuel + 1, s, _, hend, hbase, hfuel => by
    have ha : a ∈ b.addrs := ⟨hbase, by omega⟩
    rw [walk_succ_of_contains v6 iterator (hw.contains a ha), hw.text a ha, List.range'_succ,
      List.foldlM_cons]
    -- one address visited; either the block is done or the next address is in it
    cases hvisit : iterator s (dotted (beBytes 4 a)) with
    | error err =>
      simp only [visit, hvisit]
      rfl
    | ok s' =>
      simp only [visit, hvisit]
      rcases Nat.eq_zero_or_pos k with rfl | hk
      · have hlast : a = b.base + b.size - 1 := by omega
        subst hlast
        cases fuel with
        | zero => omega
        | succ fuel => rw [walk_succ_of_not_contains v6 iterator hw.last]; rfl
      · rw [hw.incr a ⟨by omega, by omega⟩]
        exact walk_v4 hw k (a + 1) fuel s' hk (by omega) (by omega) (by omega)

/-- The four-byte addresses of a block of at least one bit, as `ForEachIP` walks them. -/
theorem walkable_four (b : V4Block) (hb : 1 ≤ b.ones) : Walkable v6 b (beBytes 4) := by
  have hcontains : ∀ a, b.cidr.ipnet.Contains (beBytes 4 a) = true ↔ a % 2 ^ 32 ∈ b.addrs := by
    intro a
    rw [Contains_cidr, To4_of_length (length_beBytes 4 a), length_beBytes, beVal_beBytes]
    simp
  have hincr : ∀ a, IncrIP (beBytes 4 a) = beBytes 4 ((a + 1) % 2 ^ 32) := by
    intro a
    rw [← beVal_inj_iff (by rw [length_IncrIP, length_beBytes, length_beBytes]), beVal_IncrIP,
      beVal_beBytes, beVal_beBytes, length_beBytes]
    norm_num [Nat.add_mod]
  have hlt : ∀ a ∈ b.addrs, a < 2 ^ 32 := fun a ha => lt_of_lt_of_le ha.2 b.add_size_le
  refine ⟨fun a ha => ?_, fun a _ => String_of_length v6 (length_beBytes 4 a), fun a ha => ?_, ?_⟩
  · rw [hcontains, Nat.mod_eq_of_lt (hlt a ha)]
    exact ha
  · rw [hincr, Nat.mod_eq_of_lt (hlt _ ha)]
  · -- past the last address: the next block, or `0.0.0.0` after the top, which a block of at
    -- least one bit holds only if it starts at `0`, and then it ends below the top
    rw [hincr, Bool.eq_false_iff, ne_eq, hcontains]
    have hsize : b.size ≤ 2 ^ 31 := Nat.pow_le_pow_right (by decide) (by omega)
    have := b.add_size_le
    have := b.size_pos
    rintro ⟨h₁, h₂⟩
    rcases Nat.lt_or_ge (b.base + b.size) (2 ^ 32) with htop | htop
    · rw [Nat.mod_eq_of_lt (by omega)] at h₁ h₂
      omega
    · have hwrap : (b.base + b.size - 1 + 1) % 2 ^ 32 = 0 := by
        rw [show b.base + b.size - 1 + 1 = 2 ^ 32 by omega, Nat.mod_self]
      rw [hwrap] at h₁
      omega

/-- The sixteen-byte addresses of any block, as `ForEachIPBeginWith` walks them. -/
theorem walkable_sixteen (b : V4Block) :
    Walkable v6 b (fun a => v4InV6Prefix ++ beBytes 4 a) := by
  have hlt : ∀ a ∈ b.addrs, a < 2 ^ 32 := fun a ha => lt_of_lt_of_le ha.2 b.add_size_le
  have hcontains : ∀ a < 2 ^ 32,
      b.cidr.ipnet.Contains (v4InV6Prefix ++ beBytes 4 a) = true ↔ a ∈ b.addrs := by
    intro a ha
    rw [Contains_cidr, To4_v4InV6Prefix_append (length_beBytes 4 a), length_beBytes, beVal_beBytes,
      Nat.mod_eq_of_lt (by simpa using ha)]
    simp
  refine ⟨fun a ha => (hcontains a (hlt a ha)).mpr ha, fun a _ => ?_, fun a ha => ?_, ?_⟩
  · rw [String_of_To4 v6 (by rw [To4_v4InV6Prefix_append (length_beBytes 4 a), length_beBytes]),
      To4_v4InV6Prefix_append (length_beBytes 4 a)]
  · exact IncrIP_v4 (hlt _ ha)
  · have := b.size_pos
    have := b.add_size_le
    rcases Nat.lt_or_ge (b.base + b.size) (2 ^ 32) with htop | htop
    · -- the next block's first address
      rw [IncrIP_v4 (by omega), Bool.eq_false_iff, ne_eq, hcontains _ (by omega)]
      intro h
      exact absurd h.2 (by omega)
    · -- the carry runs into the prefix: no longer an IPv4 address
      rw [show b.base + b.size - 1 = 2 ^ 32 - 1 by omega, Bool.eq_false_iff, ne_eq,
        Contains_cidr]
      intro h
      have hlen : (IncrIP (v4InV6Prefix ++ beBytes 4 (2 ^ 32 - 1))).length = 16 := by
        rw [length_IncrIP, List.length_append, length_beBytes]
        rfl
      have hto4 : IP.To4 (IncrIP (v4InV6Prefix ++ beBytes 4 (2 ^ 32 - 1))) = [] := by
        rw [IP.To4, if_neg (by rw [hlen]; decide), if_neg (fun h => IncrIP_v4_top h.2)]
      rw [hto4] at h
      exact absurd h.1 (by decide)

/-- `ForEachIP` on an IPv4 network of at least one bit folds the iterator over the texts of
    its addresses in increasing order, `IPCount` of them, and returns given one turn more. -/
theorem ForEachIP_v4 (b : V4Block) (hb : 1 ≤ b.ones) {fuel : Nat} (hfuel : b.size < fuel)
    (s : σ) :
    b.cidr.ForEachIP v6 iterator fuel s =
        some ((List.range' b.base b.size).foldlM (visit iterator) s) ∧
      (List.range' b.base b.size).length = b.cidr.IPCount := by
  refine ⟨?_, by rw [List.length_range', IPCount_cidr]⟩
  exact walk_v4 v6 iterator (walkable_four v6 b hb) b.size b.base fuel s b.size_pos rfl le_rfl hfuel

/-- An iterator that collects the texts it is given. -/
def collectTexts (texts : List String) (t : String) : Except String (List String) := .ok (texts ++ [t])

theorem ForEachIP_v4_tenNet :
    tenNet.cidr.ForEachIP noV6Text collectTexts 257 [] =
        some ((List.range' tenNet.base tenNet.size).foldlM (visit collectTexts) []) ∧
      (List.range' tenNet.base tenNet.size).length = tenNet.cidr.IPCount :=
  ForEachIP_v4 noV6Text collectTexts tenNet (by decide) (by decide) []

/-- On `0.0.0.0/0`, `ForEachIP` never returns while the iterator does not fail: every
    four-byte address is in the network, and `IncrIP` wraps around. -/
theorem ForEachIP_everything (b : V4Block) (hb : b.ones = 0)
    (hok : ∀ s t, ∃ s', iterator s t = .ok s') (fuel : Nat) (s : σ) :
    b.cidr.ForEachIP v6 iterator fuel s = none := by
  have hall : ∀ next, next.length = 4 → b.cidr.ipnet.Contains next = true := by
    intro next hnext
    rw [Contains_cidr, To4_of_length hnext, hnext]
    refine ⟨rfl, ?_, ?_⟩
    · have : b.base = 0 := by
        have := b.aligned
        rw [hb] at this
        exact Nat.mod_eq_of_lt b.base_lt ▸ this
      omega
    · have := beVal_lt next
      rw [hnext] at this
      have hsize : b.size = 2 ^ 32 := by rw [V4Block.size, hb]
      have : b.base = 0 := by
        have := b.aligned
        rw [hb] at this
        exact Nat.mod_eq_of_lt b.base_lt ▸ this
      simp only [hsize, this]
      omega
  -- whatever the fuel: each turn visits a four-byte address and goes on with another
  suffices ∀ fuel next s, next.length = 4 → walk v6 iterator b.cidr.ipnet fuel next s = none from
    this fuel _ s (length_beBytes 4 b.base)
  intro fuel
  induction fuel with
  | zero => intro next s _; rfl
  | succ fuel ih =>
    intro next s hnext
    obtain ⟨s', hs'⟩ := hok s (IP.String v6 next)
    rw [walk_succ_of_contains v6 iterator (hall next hnext), hs']
    exact ih _ s' (by rw [length_IncrIP, hnext])

/-- The network `0.0.0.0/0`. -/
def everything : V4Block := ⟨0, 0, by decide, by decide, by decide⟩

theorem ForEachIP_everything_counting :
    everything.cidr.ForEachIP noV6Text (fun (n : Nat) _ => (.ok (n + 1) : Except String Nat))
      (2 ^ 32 + 1) 0 = none :=
  ForEachIP_everything noV6Text _ everything rfl (fun n _ => ⟨n + 1, rfl⟩) _ 0

/-- `ForEachIPBeginWith` from the text of an IPv4 address: the iterator folded over the
    addresses from it to the network's last, when the network holds it, also on
    `0.0.0.0/0`; nothing when it does not. -/
theorem ForEachIPBeginWith_v4 (b : V4Block) {a : Nat} (ha : a < 2 ^ 32) {fuel : Nat}
    (hfuel : b.base + b.size - a < fuel) (s : σ) :
    b.cidr.ForEachIPBeginWith v6 iterator (dotted (beBytes 4 a)) fuel s =
      some (if b.base ≤ a ∧ a < b.base + b.size then
          (List.range' a (b.base + b.size - a)).foldlM (visit iterator) s
        else .ok s) := by
  rw [CIDR.ForEachIPBeginWith, ParseIP_dotted v6 (length_beBytes 4 a)]
  split
  · rename_i hmem
    exact walk_v4 v6 iterator (walkable_sixteen v6 b) _ a fuel s (by have := hmem.2; omega)
      (by have := hmem.2; omega) hmem.1 hfuel
  · rename_i hmem
    obtain ⟨fuel, rfl⟩ : ∃ f, fuel = f + 1 := ⟨fuel - 1, by omega⟩
    apply walk_succ_of_not_contains
    rw [Bool.eq_false_iff, ne_eq, Contains_cidr, To4_v4InV6Prefix_append (length_beBytes 4 a),
      beVal_beBytes, Nat.mod_eq_of_lt (by simpa using ha)]
    exact fun h => hmem h.2

theorem ForEachIPBeginWith_v4_tenNet :
    tenNet.cidr.ForEachIPBeginWith noV6Text collectTexts (dotted (beBytes 4 0x0a0000fa)) 300 [] =
      some (if tenNet.base ≤ 0x0a0000fa ∧ 0x0a0000fa < tenNet.base + tenNet.size then
          (List.range' 0x0a0000fa (tenNet.base + tenNet.size - 0x0a0000fa)).foldlM
            (visit collectTexts) []
        else .ok []) :=
  ForEachIPBeginWith_v4 noV6Text collectTexts tenNet (by decide) (by decide) []

end walk

end OsmEdge.Cidr
