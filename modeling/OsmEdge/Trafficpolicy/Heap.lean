import OsmEdge.Trafficpolicy.Rules

/-
  `MergeRules` and `MergeInboundPolicies` (`pkg/trafficpolicy/trafficpolicy.go`) on pointers.

  A policy's `Rules` is a slice of `*Rule`. `MergeRules` appends the latest rule pointers to
  the original slice and, for a rule whose route is already there, assigns the union of the
  principals to the original rule's field. `MergeInboundPolicies` hands the same latest slice
  to every original policy whose hostnames hold or are held by the latest policy's, so one
  rule object can end up in the slices of two policies, and a later merge into one of them
  changes the rule the other one reads.

  Here a `*Rule` is an address into a heap of rule objects, and the heap is threaded through
  both loops in the order Go runs them. A slice is a list of addresses; two slices never
  share a backing array (each policy's slice is its own).

  Proved:
  * `MergeRules_map`: with every rule object in one place only, `MergeRules` on pointers reads
    back as the value model `Trafficpolicy.MergeRules`.
  * `MergeInboundPolicies_shared_rule_leaks`: when a latest policy is merged into two original
    policies that have no rule on its route, and a later policy is merged into the first of
    them only, the second policy's rule on that route allows the later policy's principals.
-/

namespace OsmEdge.Trafficpolicy.Heap

/-- A `*Rule`: the address of a rule object. -/
abbrev RulePtr := Nat

/-- The rule objects, by address. -/
abbrev RuleHeap := RulePtr → Rule

/-- `InboundTrafficPolicy`, its rules as a slice of `*Rule`; the rate limit is left out. -/
structure InboundTrafficPolicy where
  Name : String
  Hostnames : List String
  Rules : List RulePtr

/-- The principals a policy allows on route `r`, read through the heap. -/
def principalsOn (heap : RuleHeap) (policy : InboundTrafficPolicy) (r : RouteWeightedClusters) :
    Finset String :=
  Trafficpolicy.principalsOn (policy.Rules.map heap) r

/-! ## `MergeRules` -/

/-- One iteration of the outer loop of `MergeRules`: the first original rule with the latest
    rule's route takes the union of the principals (`original.AllowedPrincipals = ...`, then
    `break`); when there is none the latest pointer is appended. -/
def mergeRule (state : RuleHeap × List RulePtr) (latest : RulePtr) : RuleHeap × List RulePtr :=
  let (heap, originalRules) := state
  match originalRules.find? (fun original => (heap original).Route = (heap latest).Route) with
  | some original =>
    (Function.update heap original
      { heap original with
        AllowedPrincipals := (heap original).AllowedPrincipals ∪ (heap latest).AllowedPrincipals },
      originalRules)
  | none => (heap, originalRules ++ [latest])

/-- `MergeRules`. -/
def MergeRules (heap : RuleHeap) (originalRules latestRules : List RulePtr) : RuleHeap × List RulePtr :=
  latestRules.foldl mergeRule (heap, originalRules)

/-! ## `MergeInboundPolicies` -/

/-- The inner loop of `MergeInboundPolicies` for one latest policy: every original policy whose
    hostnames hold or are held by the latest's takes the union of the hostnames and merges the
    latest rules, in order; the flag is `foundHostnames`. -/
def mergeIntoOriginals (l : InboundTrafficPolicy) :
    RuleHeap → List InboundTrafficPolicy → RuleHeap × List InboundTrafficPolicy × Bool
  | heap, [] => (heap, [], false)
  | heap, or :: rest =>
    let hostsUnion := slicesUnionIfSubset or.Hostnames l.Hostnames
    if hostsUnion.length > 0 then
      let (heap, rules) := MergeRules heap or.Rules l.Rules
      let (heap, rest, _) := mergeIntoOriginals l heap rest
      (heap, { or with Hostnames := hostsUnion, Rules := rules } :: rest, true)
    else
      let (heap, rest, found) := mergeIntoOriginals l heap rest
      (heap, or :: rest, found)

/-- One iteration of the outer loop: merge, or append when no original policy matched. -/
def mergeInboundPolicy (state : RuleHeap × List InboundTrafficPolicy) (l : InboundTrafficPolicy) :
    RuleHeap × List InboundTrafficPolicy :=
  let (heap, original, foundHostnames) := mergeIntoOriginals l state.1 state.2
  (heap, if foundHostnames then original else original ++ [l])

/-- `MergeInboundPolicies`. -/
def MergeInboundPolicies (heap : RuleHeap) (original latest : List InboundTrafficPolicy) :
    RuleHeap × List InboundTrafficPolicy :=
  latest.foldl mergeInboundPolicy (heap, original)

/-! ## One latest rule -/

section rules

variable {heap : RuleHeap} {originalRules : List RulePtr}

/-- A latest rule whose route no original rule has is appended. -/
theorem MergeRules_fresh {latest : RulePtr}
    (h : ∀ x ∈ originalRules, (heap x).Route ≠ (heap latest).Route) :
    MergeRules heap originalRules [latest] = (heap, originalRules ++ [latest]) := by
  have hnone : originalRules.find? (fun original => (heap original).Route = (heap latest).Route) = none :=
    List.find?_eq_none.mpr fun x hx => by simpa using h x hx
  simp only [MergeRules, List.foldl_cons, List.foldl_nil, mergeRule, hnone]

/-- A latest rule whose route the last original rule has, and no other, merges into it: the
    rule object at that address takes the union of the principals. -/
theorem MergeRules_into_last {last latest : RulePtr}
    (h : ∀ x ∈ originalRules, (heap x).Route ≠ (heap latest).Route)
    (hlast : (heap last).Route = (heap latest).Route) :
    MergeRules heap (originalRules ++ [last]) [latest] =
      (Function.update heap last
        { heap last with
          AllowedPrincipals := (heap last).AllowedPrincipals ∪ (heap latest).AllowedPrincipals },
        originalRules ++ [last]) := by
  have hnone : originalRules.find? (fun original => (heap original).Route = (heap latest).Route) = none :=
    List.find?_eq_none.mpr fun x hx => by simpa using h x hx
  have hfind : (originalRules ++ [last]).find? (fun original => (heap original).Route = (heap latest).Route) =
      some last := by
    rw [List.find?_append, hnone]
    simp [hlast]
  simp only [MergeRules, List.foldl_cons, List.foldl_nil, mergeRule, hfind]

end rules

/-! ## Distinct pointers: the value model

With every rule object in one place only, `MergeRules` on pointers computes what the value
model `Trafficpolicy.MergeRules` does on the rules they point to. -/

section refinement

variable {heap : RuleHeap}

/-- The inner loop on pointers, read through the heap, is the value model's inner loop. -/
theorem mergeIntoFirst_map {latest : Rule} :
    ∀ {originalRules : List RulePtr}, originalRules.Nodup →
      mergeIntoFirst latest (originalRules.map heap) =
        (originalRules.find? fun original => (heap original).Route = latest.Route).map fun original =>
          originalRules.map (Function.update heap original
            { heap original with
              AllowedPrincipals := (heap original).AllowedPrincipals ∪ latest.AllowedPrincipals })
  | [], _ => rfl
  | x :: xs, hnodup => by
    obtain ⟨hx, hxs⟩ := List.nodup_cons.mp hnodup
    have hfresh : ∀ rule, xs.map (Function.update heap x rule) = xs.map heap := fun rule =>
      List.map_congr_left fun y hy => Function.update_of_ne (fun (e : y = x) => hx (e ▸ hy)) _ _
    by_cases hroute : (heap x).Route = latest.Route
    · -- the head is the first rule on the route
      rw [List.map_cons, mergeIntoFirst, if_pos hroute.symm, List.find?_cons_of_pos (by simpa using hroute)]
      simp [hfresh]
    · rw [List.map_cons, mergeIntoFirst, if_neg (Ne.symm hroute),
        List.find?_cons_of_neg (by simpa using hroute), mergeIntoFirst_map hxs]
      cases hfind : xs.find? (fun original => (heap original).Route = latest.Route) with
      | none => rfl
      | some o =>
        have ho : o ≠ x := fun e => hx (e ▸ List.mem_of_find?_eq_some hfind)
        simp [Function.update_of_ne (Ne.symm ho)]

/-- One iteration on distinct pointers: it reads back as the value model's step, keeps the
    pointers distinct, and writes only to an original rule. -/
theorem mergeRule_map (heap : RuleHeap) {originalRules : List RulePtr} (latest : RulePtr)
    (hnodup : originalRules.Nodup) :
    let state := mergeRule (heap, originalRules) latest
    state.2.map state.1 = Trafficpolicy.mergeRule (originalRules.map heap) (heap latest) ∧
      (state.2 = originalRules ∨ state.2 = originalRules ++ [latest]) ∧
      ∀ p ∉ originalRules, state.1 p = heap p := by
  simp only [mergeRule, Trafficpolicy.mergeRule, mergeIntoFirst_map hnodup]
  cases hfind : originalRules.find? (fun original => (heap original).Route = (heap latest).Route) with
  | none => simp
  | some o =>
    have ho : o ∈ originalRules := List.mem_of_find?_eq_some hfind
    refine ⟨rfl, Or.inl rfl, fun p hp => ?_⟩
    exact Function.update_of_ne (fun (e : p = o) => hp (e ▸ ho)) _ _

/-- `MergeRules` on distinct pointers reads back as the value model's `MergeRules`. -/
theorem MergeRules_map :
    ∀ (latestRules originalRules : List RulePtr) (heap : RuleHeap), (originalRules ++ latestRules).Nodup →
      (MergeRules heap originalRules latestRules).2.map (MergeRules heap originalRules latestRules).1 =
        Trafficpolicy.MergeRules (originalRules.map heap) (latestRules.map heap)
  | [], _, _, _ => rfl
  | latest :: rest, originalRules, heap, hnodup => by
    have horig : originalRules.Nodup := (List.nodup_append.mp hnodup).1
    obtain ⟨hview, hrules, hframe⟩ := mergeRule_map heap latest horig
    -- the rest of the latest pointers still point at the rules they did
    have hrest : rest.map (mergeRule (heap, originalRules) latest).1 = rest.map heap :=
      List.map_congr_left fun p hp => hframe p fun h =>
        (List.nodup_append.mp hnodup).2.2 p h p (List.mem_cons_of_mem latest hp) rfl
    have hnodup' : ((mergeRule (heap, originalRules) latest).2 ++ rest).Nodup := by
      rcases hrules with h | h <;> rw [h]
      · exact (List.nodup_append.mp hnodup).1.append ((List.nodup_append.mp hnodup).2.1.of_cons)
          fun ⦃a⦄ ha hb => (List.nodup_append.mp hnodup).2.2 a ha a (List.mem_cons_of_mem latest hb) rfl
      · simpa using hnodup
    have ih := MergeRules_map rest (mergeRule (heap, originalRules) latest).2
      (mergeRule (heap, originalRules) latest).1 hnodup'
    simp only [MergeRules, List.foldl_cons, List.map_cons, Trafficpolicy.MergeRules] at ih ⊢
    rw [ih, hview, hrest]

end refinement

/-! ## A rule object in two policies -/

/-- An update at one address leaves the principals of rules elsewhere as they were; here,
    rules none of which is on route `r`. -/
theorem principalsOn_update_of_ne {heap : RuleHeap} {rules : List RulePtr} {r : RouteWeightedClusters}
    {ptr : RulePtr} (rule : Rule) (h : ∀ x ∈ rules, (heap x).Route ≠ r) (hptr : ptr ∉ rules) :
    Trafficpolicy.principalsOn (rules.map (Function.update heap ptr rule)) r = ∅ := by
  apply principalsOn_eq_empty
  intro y hy
  obtain ⟨x, hx, rfl⟩ := List.mem_map.mp hy
  have hne : x ≠ ptr := fun e => hptr (e ▸ hx)
  rw [Function.update_of_ne hne]
  exact h x hx

/-- A latest policy merged into two original policies with no rule on its route puts its rule
    object into both; a later policy merged into the first one only then widens the principals
    the second one allows on that route. The second policy's inputs (itself and the first
    latest policy) allow only the first rule's principals there. -/
theorem MergeInboundPolicies_shared_rule_leaks (heap : RuleHeap) (O1 O2 L L2 : InboundTrafficPolicy)
    (ρ σ : RulePtr) (hL : L.Rules = [ρ]) (hL2 : L2.Rules = [σ]) (hroute : (heap σ).Route = (heap ρ).Route)
    (hO1 : ∀ x ∈ O1.Rules, (heap x).Route ≠ (heap ρ).Route)
    (hO2 : ∀ x ∈ O2.Rules, (heap x).Route ≠ (heap ρ).Route)
    (h1 : slicesUnionIfSubset O1.Hostnames L.Hostnames ≠ [])
    (h2 : slicesUnionIfSubset O2.Hostnames L.Hostnames ≠ [])
    (h3 : slicesUnionIfSubset (slicesUnionIfSubset O1.Hostnames L.Hostnames) L2.Hostnames ≠ [])
    (h4 : slicesUnionIfSubset (slicesUnionIfSubset O2.Hostnames L.Hostnames) L2.Hostnames = [])
    (hnew : ¬ (heap σ).AllowedPrincipals ⊆ (heap ρ).AllowedPrincipals) :
    ∃ heap' O1' O2', MergeInboundPolicies heap [O1, O2] [L, L2] = (heap', [O1', O2']) ∧
      O2'.Hostnames = slicesUnionIfSubset O2.Hostnames L.Hostnames ∧
      principalsOn heap O2 (heap ρ).Route ∪ principalsOn heap L (heap ρ).Route = (heap ρ).AllowedPrincipals ∧
      principalsOn heap' O2' (heap ρ).Route = (heap ρ).AllowedPrincipals ∪ (heap σ).AllowedPrincipals ∧
      ¬ principalsOn heap' O2' (heap ρ).Route ⊆
        principalsOn heap O2 (heap ρ).Route ∪ principalsOn heap L (heap ρ).Route := by
  let heap' := Function.update heap ρ
    { heap ρ with AllowedPrincipals := (heap ρ).AllowedPrincipals ∪ (heap σ).AllowedPrincipals }
  let O1' : InboundTrafficPolicy := { O1 with
    Hostnames := slicesUnionIfSubset O1.Hostnames L.Hostnames, Rules := O1.Rules ++ [ρ] }
  let O2' : InboundTrafficPolicy := { O2 with
    Hostnames := slicesUnionIfSubset O2.Hostnames L.Hostnames, Rules := O2.Rules ++ [ρ] }
  have hρO2 : ρ ∉ O2.Rules := fun h => hO2 ρ h rfl
  -- the first latest policy is appended to both original policies' rules, pointer and all
  have hstep1 : mergeInboundPolicy (heap, [O1, O2]) L = (heap, [O1', O2']) := by
    have hρ1 : MergeRules heap O1.Rules L.Rules = (heap, O1.Rules ++ [ρ]) := by
      rw [hL]; exact MergeRules_fresh hO1
    have hρ2 : MergeRules heap O2.Rules L.Rules = (heap, O2.Rules ++ [ρ]) := by
      rw [hL]; exact MergeRules_fresh hO2
    simp only [mergeInboundPolicy, mergeIntoOriginals, List.length_pos_iff.mpr h1,
      List.length_pos_iff.mpr h2, if_true, hρ1, hρ2, O1', O2']
  -- the second one merges into the first policy only, through the shared rule object
  have hstep2 : mergeInboundPolicy (heap, [O1', O2']) L2 =
      (heap', [{ O1' with Hostnames := slicesUnionIfSubset O1'.Hostnames L2.Hostnames }, O2']) := by
    have hσ1 : MergeRules heap O1'.Rules L2.Rules = (heap', O1.Rules ++ [ρ]) := by
      rw [hL2]
      exact MergeRules_into_last (fun x hx => hroute ▸ hO1 x hx) hroute.symm
    have h4' : ¬ (slicesUnionIfSubset O2'.Hostnames L2.Hostnames).length > 0 := by simp [O2', h4]
    simp only [mergeInboundPolicy, mergeIntoOriginals, List.length_pos_iff.mpr h3, if_true, hσ1, h4',
      if_false, O1']
  -- what the inputs merged into the second policy allow on the route
  have hbound : principalsOn heap O2 (heap ρ).Route ∪ principalsOn heap L (heap ρ).Route =
      (heap ρ).AllowedPrincipals := by
    have hnone : principalsOn heap O2 (heap ρ).Route = ∅ := by
      apply principalsOn_eq_empty
      intro y hy
      obtain ⟨x, hx, rfl⟩ := List.mem_map.mp hy
      exact hO2 x hx
    rw [hnone, principalsOn, hL]
    simp
  -- the shared rule now holds both sets of principals
  have hshared : principalsOn heap' O2' (heap ρ).Route =
      (heap ρ).AllowedPrincipals ∪ (heap σ).AllowedPrincipals := by
    rw [principalsOn, List.map_append, principalsOn_append, principalsOn_update_of_ne _ hO2 hρO2]
    simp [heap']
  refine ⟨heap', { O1' with Hostnames := slicesUnionIfSubset O1'.Hostnames L2.Hostnames }, O2', ?_, rfl,
    hbound, hshared, ?_⟩
  · rw [MergeInboundPolicies, List.foldl_cons, hstep1, List.foldl_cons, hstep2, List.foldl_nil]
  · rw [hshared, hbound]
    exact fun hsub => hnew (Finset.union_subset_right hsub)

/-- Two rule objects on `GET /buy`: the one at address 0 allows `bookbuyer`, the others
    `bookthief`. -/
def buyHeap : RuleHeap := fun ptr =>
  { Route := { HTTPRouteMatch := { Path := "/buy", PathMatchType := .PathMatchRegex, Methods := ["GET"]
                                   Headers := ∅ }
               WeightedClusters := ∅ }
    AllowedPrincipals := if ptr = 0 then {"bookbuyer"} else {"bookthief"} }

/-- The policy for `bookstore.demo` merges into the policies for `bookstore.demo.svc` and for
    `bookstore-v2.demo`; the later policy for `bookstore.demo.svc` then lets `bookthief` reach
    `GET /buy` through the policy for `bookstore-v2.demo`. -/
theorem MergeInboundPolicies_shared_rule_leaks_bookthief :
    ∃ heap' O1' O2', MergeInboundPolicies buyHeap
        [⟨"svc", ["bookstore.demo", "bookstore.demo.svc"], []⟩, ⟨"v2", ["bookstore-v2.demo", "bookstore.demo"], []⟩]
        [⟨"host", ["bookstore.demo"], [0]⟩, ⟨"svc-host", ["bookstore.demo", "bookstore.demo.svc"], [1]⟩] =
        (heap', [O1', O2']) ∧
      O2'.Hostnames = slicesUnionIfSubset ["bookstore-v2.demo", "bookstore.demo"] ["bookstore.demo"] ∧
      principalsOn buyHeap ⟨"v2", ["bookstore-v2.demo", "bookstore.demo"], []⟩ (buyHeap 0).Route ∪
          principalsOn buyHeap ⟨"host", ["bookstore.demo"], [0]⟩ (buyHeap 0).Route = (buyHeap 0).AllowedPrincipals ∧
      principalsOn heap' O2' (buyHeap 0).Route = (buyHeap 0).AllowedPrincipals ∪ (buyHeap 1).AllowedPrincipals ∧
      ¬ principalsOn heap' O2' (buyHeap 0).Route ⊆
        principalsOn buyHeap ⟨"v2", ["bookstore-v2.demo", "bookstore.demo"], []⟩ (buyHeap 0).Route ∪
          principalsOn buyHeap ⟨"host", ["bookstore.demo"], [0]⟩ (buyHeap 0).Route :=
  MergeInboundPolicies_shared_rule_leaks buyHeap _ _ _ _ 0 1 rfl rfl rfl (by simp) (by simp)
    (by decide) (by decide) (by decide) (by decide) (by decide)

end OsmEdge.Trafficpolicy.Heap
