import Mathlib.Data.Finset.Lattice.Lemmas
import OsmEdge.Identity
import OsmEdge.Service
import OsmEdge.Lib.GoSet
import Mathlib.Data.List.AList
import Mathlib.Data.List.Dedup
import Mathlib.Data.List.Sort

/-
  Routes and the rules that authorise them (`pkg/trafficpolicy`), and `MergeRules`, which
  folds the rules of several TrafficTargets into one rule per route.

  `MergeRules` compares routes with `reflect.DeepEqual`; on this model that is equality of
  the route values (a Go map or set is compared by its contents, a slice by its elements in
  order). A set of principals or weighted clusters is a `Finset`.

  What a merge computes is best read through `principalsOn rules r`, the principals of all
  rules of `rules` on route `r`: a merge unions them (`MergeRules_principalsOn`), adds no
  route that neither side has (`mem_routes_MergeRules`) and keeps the routes of a list
  free of duplicates (`MergeRules_nodup`), and in a list with one rule per route that rule
  holds exactly `principalsOn` (`AllowedPrincipals_eq_principalsOn`).
-/

namespace OsmEdge.Trafficpolicy

/-- `PathMatchType`. -/
inductive PathMatchType where
  | PathMatchRegex
  | PathMatchExact
  | PathMatchPrefix
  deriving DecidableEq, Repr

/-- `HTTPRouteMatch`; `Headers` is a Go map, so a finite set of key-value pairs. -/
structure HTTPRouteMatch where
  Path : String
  PathMatchType : PathMatchType
  Methods : List String
  Headers : Finset (String × String)
  deriving DecidableEq

/-- `service.WeightedCluster`. -/
structure WeightedCluster where
  ClusterName : String
  Weight : Int
  deriving DecidableEq, Hashable, Repr

/-- `RouteWeightedClusters`. -/
structure RouteWeightedClusters where
  HTTPRouteMatch : HTTPRouteMatch
  WeightedClusters : Finset WeightedCluster
  deriving DecidableEq

/-- `Rule`: the principals allowed on a route. -/
structure Rule where
  Route : RouteWeightedClusters
  AllowedPrincipals : Finset String
  deriving DecidableEq

/-- `TCPRouteMatch`. -/
structure TCPRouteMatch where
  Ports : List UInt16
  deriving DecidableEq, Repr

/-- `TrafficTargetWithRoutes`. -/
structure TrafficTargetWithRoutes where
  Name : String
  Destination : Identity.ServiceIdentity
  Sources : List Identity.ServiceIdentity
  TCPRouteMatches : List TCPRouteMatch
  deriving DecidableEq, Repr

/-- `InboundTrafficPolicy`; the rate limit is left out. -/
structure InboundTrafficPolicy where
  Name : String
  Hostnames : List String
  Rules : List Rule

/-! ## Mesh traffic policies -/

/-- `TrafficMatch`; the rate limit is left out. The fields a builder does not set keep Go's
    zero values. -/
structure TrafficMatch where
  Name : String
  DestinationPort : Int
  DestinationProtocol : String
  DestinationIPRanges : List String := []
  ServerNames : List String := []
  Cluster : String := ""
  WeightedClusters : List WeightedCluster := []
  EgressGateWay : Option String := none
  deriving DecidableEq, Hashable, Repr

/-- `MeshClusterConfig`; the health-check flag and the upstream traffic setting are left
    out. -/
structure MeshClusterConfig where
  Name : String
  Service : Service.MeshService
  Address : String
  Port : UInt32

/-- `InboundMeshTrafficPolicy`: the HTTP route configurations are listed by target port. -/
structure InboundMeshTrafficPolicy where
  TrafficMatches : List TrafficMatch
  HTTPRouteConfigsPerPort : AList fun _ : Int => List InboundTrafficPolicy
  ClustersConfigs : List MeshClusterConfig

/-! ## `MergeRules` -/

/-- The inner loop of `MergeRules` for one latest rule: the first original rule with the
    same route takes the union of both principal sets (`foundRoute`, then `break`); `none`
    when no original rule has that route. -/
def mergeIntoFirst (latest : Rule) : List Rule → Option (List Rule)
  | [] => none
  | original :: rest =>
    if latest.Route = original.Route then
      some ({ original with
        AllowedPrincipals := original.AllowedPrincipals ∪ latest.AllowedPrincipals } :: rest)
    else (mergeIntoFirst latest rest).map (original :: ·)

/-- One iteration of the outer loop: merge, or append when the route is new. -/
def mergeRule (originalRules : List Rule) (latest : Rule) : List Rule :=
  (mergeIntoFirst latest originalRules).getD (originalRules ++ [latest])

/-- `MergeRules`: the latest rules are merged one after the other; an appended rule takes
    part in the merges of the rules after it. -/
def MergeRules (originalRules latestRules : List Rule) : List Rule :=
  latestRules.foldl mergeRule originalRules

/-- The routes of a list of rules, in order. -/
def routes (rules : List Rule) : List RouteWeightedClusters := rules.map (·.Route)

/-- The principals of all rules on route `r`. -/
def principalsOn (rules : List Rule) (r : RouteWeightedClusters) : Finset String :=
  rules.foldr (fun x acc => if x.Route = r then x.AllowedPrincipals ∪ acc else acc) ∅

@[simp] theorem principalsOn_nil (r : RouteWeightedClusters) : principalsOn [] r = ∅ := rfl

@[simp] theorem principalsOn_cons (x : Rule) (rules : List Rule) (r : RouteWeightedClusters) :
    principalsOn (x :: rules) r =
      if x.Route = r then x.AllowedPrincipals ∪ principalsOn rules r else principalsOn rules r :=
  rfl

theorem principalsOn_append (rs₁ rs₂ : List Rule) (r : RouteWeightedClusters) :
    principalsOn (rs₁ ++ rs₂) r = principalsOn rs₁ r ∪ principalsOn rs₂ r := by
  induction rs₁ with
  | nil => simp
  | cons x xs ih =>
    rw [List.cons_append, principalsOn_cons, principalsOn_cons, ih]
    split_ifs <;> simp [Finset.union_assoc]

theorem mem_principalsOn {rules : List Rule} {r : RouteWeightedClusters} {p : String} :
    p ∈ principalsOn rules r ↔ ∃ x ∈ rules, x.Route = r ∧ p ∈ x.AllowedPrincipals := by
  induction rules with
  | nil => simp
  | cons x xs ih =>
    rw [principalsOn_cons]
    split_ifs with hx
    · simp [ih, hx]
    · simp [ih, hx]

/-- No rule on route `r`, no principal on it. -/
theorem principalsOn_eq_empty {rules : List Rule} {r : RouteWeightedClusters}
    (h : ∀ x ∈ rules, x.Route ≠ r) : principalsOn rules r = ∅ := by
  ext p
  simp only [mem_principalsOn, Finset.notMem_empty, iff_false, not_exists, not_and]
  exact fun x hx hr => absurd hr (h x hx)

/-! ### The inner loop -/

theorem mergeIntoFirst_eq_none {latest : Rule} {rules : List Rule} :
    mergeIntoFirst latest rules = none ↔ latest.Route ∉ routes rules := by
  induction rules with
  | nil => simp [mergeIntoFirst, routes]
  | cons original rest ih =>
    unfold mergeIntoFirst
    by_cases h : latest.Route = original.Route
    · simp [h, routes]
    · simp only [h, if_false, Option.map_eq_none_iff, ih, routes, List.map_cons, List.mem_cons,
        not_or, not_false_eq_true, true_and]

/-- A successful inner loop keeps the routes and adds the latest principals on its route. -/
theorem mergeIntoFirst_spec {latest : Rule} :
    ∀ {rules rules' : List Rule}, mergeIntoFirst latest rules = some rules' →
      routes rules' = routes rules ∧
        ∀ r, principalsOn rules' r =
          principalsOn rules r ∪ (if latest.Route = r then latest.AllowedPrincipals else ∅)
  | [], _, h => by cases h
  | original :: rest, rules', h => by
    unfold mergeIntoFirst at h
    split_ifs at h with heq
    · -- merged into the head
      cases h
      refine ⟨rfl, fun r => ?_⟩
      simp only [principalsOn_cons]
      by_cases hr : original.Route = r
      · have hl : latest.Route = r := heq.trans hr
        rw [if_pos hr, if_pos hr, if_pos hl, Finset.union_right_comm]
      · simp [hr, heq]
    · -- merged further down
      obtain ⟨rest', hrest, rfl⟩ := Option.map_eq_some_iff.mp h
      obtain ⟨hroutes, hprin⟩ := mergeIntoFirst_spec hrest
      refine ⟨by simp [routes] at hroutes ⊢; exact hroutes, fun r => ?_⟩
      simp only [principalsOn_cons, hprin]
      split_ifs <;> simp [Finset.union_assoc]

/-! ### One merge step -/

theorem mergeRule_principalsOn (rules : List Rule) (latest : Rule) (r : RouteWeightedClusters) :
    principalsOn (mergeRule rules latest) r =
      principalsOn rules r ∪ (if latest.Route = r then latest.AllowedPrincipals else ∅) := by
  unfold mergeRule
  cases h : mergeIntoFirst latest rules with
  | none =>
    rw [Option.getD_none, principalsOn_append, principalsOn_cons, principalsOn_nil,
      Finset.union_empty]
  | some rules' => exact (mergeIntoFirst_spec h).2 r

theorem routes_mergeRule (rules : List Rule) (latest : Rule) :
    routes (mergeRule rules latest) =
      if latest.Route ∈ routes rules then routes rules else routes rules ++ [latest.Route] := by
  unfold mergeRule
  cases h : mergeIntoFirst latest rules with
  | none =>
    rw [if_neg (mergeIntoFirst_eq_none.mp h)]
    simp [routes]
  | some rules' =>
    have hin : latest.Route ∈ routes rules := by
      by_contra hn
      rw [← mergeIntoFirst_eq_none] at hn
      rw [hn] at h
      cases h
    rw [if_pos hin]
    exact (mergeIntoFirst_spec h).1

/-- The routes after one merge step: the latest route is appended when it is new. -/
theorem routes_mergeRule_addNew (rules : List Rule) (latest : Rule) :
    routes (mergeRule rules latest) = GoSet.addNew (routes rules) latest.Route := by
  rw [routes_mergeRule]
  rfl

/-! ### The whole merge -/

/-- The routes after a merge: the original routes in place, then each new route of the
    latest rules at its first occurrence. -/
theorem routes_MergeRules (originalRules latestRules : List Rule) :
    routes (MergeRules originalRules latestRules) = (routes latestRules).foldl GoSet.addNew (routes originalRules) := by
  induction latestRules generalizing originalRules with
  | nil => rfl
  | cons latest rest ih =>
    rw [MergeRules, List.foldl_cons, ← MergeRules, ih, routes_mergeRule_addNew]
    rfl

/-- `MergeRules` unions the principals of both sides on every route. -/
theorem MergeRules_principalsOn (originalRules latestRules : List Rule)
    (r : RouteWeightedClusters) :
    principalsOn (MergeRules originalRules latestRules) r =
      principalsOn originalRules r ∪ principalsOn latestRules r := by
  induction latestRules generalizing originalRules with
  | nil => simp [MergeRules]
  | cons latest rest ih =>
    rw [MergeRules, List.foldl_cons, ← MergeRules, ih, mergeRule_principalsOn, principalsOn_cons]
    split_ifs
    · rw [Finset.union_assoc]
    · rw [Finset.union_empty]

/-- The routes after a merge are those of either side. -/
theorem mem_routes_MergeRules (originalRules latestRules : List Rule)
    (r : RouteWeightedClusters) :
    r ∈ routes (MergeRules originalRules latestRules) ↔
      r ∈ routes originalRules ∨ r ∈ routes latestRules := by
  induction latestRules generalizing originalRules with
  | nil => simp [MergeRules, routes]
  | cons latest rest ih =>
    rw [MergeRules, List.foldl_cons, ← MergeRules, ih, routes_mergeRule]
    split_ifs with h
    · simp only [routes, List.map_cons, List.mem_cons]
      constructor
      · rintro (h' | h')
        · exact Or.inl h'
        · exact Or.inr (Or.inr h')
      · rintro (h' | rfl | h')
        · exact Or.inl h'
        · exact Or.inl h
        · exact Or.inr h'
    · simp [routes, or_assoc]

/-- A merge into a list with one rule per route keeps one rule per route. -/
theorem MergeRules_nodup (originalRules latestRules : List Rule)
    (h : (routes originalRules).Nodup) : (routes (MergeRules originalRules latestRules)).Nodup := by
  induction latestRules generalizing originalRules with
  | nil => exact h
  | cons latest rest ih =>
    rw [MergeRules, List.foldl_cons, ← MergeRules]
    apply ih
    rw [routes_mergeRule]
    split_ifs with hin
    · exact h
    · refine List.nodup_append.2 ⟨h, List.nodup_singleton _, ?_⟩
      intro a ha b hb hab
      rw [List.mem_singleton] at hb
      exact hin (hb ▸ hab ▸ ha)

/-- In a list with one rule per route, each rule holds all principals of its route. -/
theorem AllowedPrincipals_eq_principalsOn {rules : List Rule} (h : (routes rules).Nodup)
    {x : Rule} (hx : x ∈ rules) : x.AllowedPrincipals = principalsOn rules x.Route := by
  induction rules with
  | nil => cases hx
  | cons y ys ih =>
    simp only [routes, List.map_cons, List.nodup_cons] at h
    rw [principalsOn_cons]
    rcases List.mem_cons.mp hx with rfl | hx
    · -- no later rule shares the route of the head
      have hnone : principalsOn ys x.Route = ∅ := by
        ext p
        simp only [mem_principalsOn, Finset.notMem_empty, iff_false, not_exists, not_and]
        intro z hz hzr
        exact absurd (hzr ▸ List.mem_map_of_mem hz) h.1
      simp [hnone]
    · have hne : y.Route ≠ x.Route := fun he => h.1 (he ▸ List.mem_map_of_mem hx)
      rw [if_neg hne]
      exact ih h.2 hx

/-! ### Merging the rules of several sources -/

section fold

variable {α : Type*} (g : α → List Rule)

/-- Folding `MergeRules` over sources: a principal is on route `r` afterwards when it was
    before or some source has it there. -/
theorem mem_principalsOn_foldl_MergeRules (r : RouteWeightedClusters) (p : String) :
    ∀ (xs : List α) (acc : List Rule),
      p ∈ principalsOn (xs.foldl (fun acc x => MergeRules acc (g x)) acc) r ↔
        p ∈ principalsOn acc r ∨ ∃ x ∈ xs, p ∈ principalsOn (g x) r
  | [], acc => by simp
  | x :: xs, acc => by
    rw [List.foldl_cons, mem_principalsOn_foldl_MergeRules r p xs, MergeRules_principalsOn,
      Finset.mem_union]
    simp only [List.mem_cons, exists_eq_or_imp, or_assoc]

theorem mem_routes_foldl_MergeRules (r : RouteWeightedClusters) :
    ∀ (xs : List α) (acc : List Rule),
      r ∈ routes (xs.foldl (fun acc x => MergeRules acc (g x)) acc) ↔
        r ∈ routes acc ∨ ∃ x ∈ xs, r ∈ routes (g x)
  | [], acc => by simp
  | x :: xs, acc => by
    rw [List.foldl_cons, mem_routes_foldl_MergeRules r xs, mem_routes_MergeRules]
    simp only [List.mem_cons, exists_eq_or_imp, or_assoc]

theorem foldl_MergeRules_nodup :
    ∀ (xs : List α) (acc : List Rule), (routes acc).Nodup →
      (routes (xs.foldl (fun acc x => MergeRules acc (g x)) acc)).Nodup
  | [], _, h => h
  | x :: xs, acc, h => by
    rw [List.foldl_cons]
    exact foldl_MergeRules_nodup xs _ (MergeRules_nodup acc (g x) h)

end fold

/-! ## `MergeInboundPolicies` -/

/-- `slicesUnionIfSubset`: the union of two host lists, sorted (`sort.Strings`), when one
    holds the other; nil otherwise. -/
def slicesUnionIfSubset (first second : List String) : List String :=
  if first.toFinset ⊆ second.toFinset ∨ second.toFinset ⊆ first.toFinset then
    (first ++ second).dedup.insertionSort (· ≤ ·)
  else []

/-- One iteration of `MergeInboundPolicies`: the latest policy is merged into every original
    policy whose host names hold or are held by its own (the hosts united, the rules
    merged), or appended when there is none. The Go code appends the latest policy's rule
    pointers to each policy it merges into; the model copies them, which differs only when
    one policy is merged into two and a later merge changes a rule they share. -/
def mergeInboundPolicy (original : List InboundTrafficPolicy) (l : InboundTrafficPolicy) :
    List InboundTrafficPolicy :=
  if original.any (fun or => (slicesUnionIfSubset or.Hostnames l.Hostnames).length > 0) then
    original.map fun or =>
      let hostsUnion := slicesUnionIfSubset or.Hostnames l.Hostnames
      if hostsUnion.length > 0 then { or with Hostnames := hostsUnion, Rules := MergeRules or.Rules l.Rules }
      else or
  else original ++ [l]

/-- `MergeInboundPolicies`. -/
def MergeInboundPolicies (original latest : List InboundTrafficPolicy) : List InboundTrafficPolicy :=
  latest.foldl mergeInboundPolicy original

/-- A policy for the wildcard host merges into the one policy for the wildcard host. -/
theorem mergeInboundPolicy_wildcard {p l : InboundTrafficPolicy} (hp : p.Hostnames = ["*"])
    (hl : l.Hostnames = ["*"]) :
    mergeInboundPolicy [p] l = [{ p with Rules := MergeRules p.Rules l.Rules }] := by
  have hunion : slicesUnionIfSubset ["*"] ["*"] = ["*"] := by decide
  simp [mergeInboundPolicy, hp, hl, hunion]

/-- Merging keeps the routes of the original rules first. -/
theorem routes_MergeRules_prefix (originalRules latestRules : List Rule) :
    ∃ extra, routes (MergeRules originalRules latestRules) = routes originalRules ++ extra := by
  induction latestRules generalizing originalRules with
  | nil => exact ⟨[], by simp [MergeRules]⟩
  | cons latest rest ih =>
    obtain ⟨extra, hextra⟩ := ih (mergeRule originalRules latest)
    rw [MergeRules, List.foldl_cons, ← MergeRules, hextra, routes_mergeRule]
    split
    · exact ⟨extra, rfl⟩
    · exact ⟨[latest.Route] ++ extra, by simp⟩


end OsmEdge.Trafficpolicy
