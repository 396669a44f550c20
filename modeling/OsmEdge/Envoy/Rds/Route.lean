import OsmEdge.Xds.Route
import OsmEdge.Rbac.Policy
import OsmEdge.Trafficpolicy.Rules
import OsmEdge.Lib.GoSet
import OsmEdge.Lib.GoText
import OsmEdge.Constants
import Mathlib.Data.Prod.Lex
import Mathlib.Algebra.BigOperators.Group.Finset.Basic

/-
  Envoy routes from traffic policies (`pkg/sidecar/providers/envoy/rds/route`): the inbound
  and ingress route builders, with the HTTP RBAC policy each inbound route carries
  (`buildInboundRBACFilterForRule`, `rds/route/rbac.go`).

  The builders range over three Go sets and maps: the principals of a rule, the headers of a
  route match, the weighted clusters of a route. Their iteration orders are the argument
  `MapOrder`. The per-route RBAC policy lets through exactly the downstreams whose
  principal the rule allows, or everybody when the rule allows none or the wildcard
  (`buildInboundRBACFilterForRule_allows`).

  Left out of a route: the retry policy, the disabled timeout and the local rate limit
  configuration.
-/

namespace OsmEdge.Rds

open OsmEdge.Xds OsmEdge.Rbac OsmEdge.Trafficpolicy OsmEdge.Constants OsmEdge.Identity
open GoSet

/-- `InboundRouteConfigName`. -/
def InboundRouteConfigName : String := "rds-inbound"
/-- `IngressRouteConfigName`. -/
def IngressRouteConfigName : String := "rds-ingress"
/-- `inboundVirtualHost`. -/
def inboundVirtualHost : String := "inbound_virtual-host"
/-- `ingressVirtualHost`. -/
def ingressVirtualHost : String := "ingress_virtual-host"
/-- `methodHeaderKey`. -/
def methodHeaderKey : String := ":method"
/-- `httpHostHeaderKey`. -/
def httpHostHeaderKey : String := "host"
/-- `authorityHeaderKey`. -/
def authorityHeaderKey : String := ":authority"
/-- `rbacPerRoutePolicyName`. -/
def rbacPerRoutePolicyName : String := "rbac-for-route"

/-- The iteration orders of the sets and maps the route builders range over. -/
structure MapOrder where
  principals : Enumerator String
  headers : Enumerator (String × String)
  clusters : Enumerator Trafficpolicy.WeightedCluster

/-- Every set and map iterated in ascending order; an order for evaluating concrete runs. -/
def ascendingOrder : MapOrder where
  principals := Enumerator.sortedBy (fun s : String => s) Function.injective_id
  headers := Enumerator.sortedBy (fun h : String × String => toLex h) toLex.injective
  clusters := Enumerator.sortedBy (fun c : Trafficpolicy.WeightedCluster => toLex (c.ClusterName, c.Weight))
    (fun a b h => by
      obtain ⟨n₁, w₁⟩ := a
      obtain ⟨n₂, w₂⟩ := b
      simp only [toLex_inj, Prod.mk.injEq] at h
      rw [h.1, h.2])

variable (it : MapOrder)

/-! ## Route matches -/

/-- `sanitizeHTTPMethods`: the wildcard alone if it occurs, else the non-empty methods
    without repeats, in order. -/
def sanitizeHTTPMethods (allowedMethods : List String) : List String :=
  go allowedMethods []
where
  /-- The loop, with the methods kept so far. -/
  go : List String → List String → List String
    | [], kept => kept
    | method :: rest, kept =>
      if method = "" then go rest kept
      else if method = WildcardHTTPMethod then [WildcardHTTPMethod]
      else if method ∈ kept then go rest kept
      else go rest (kept ++ [method])

/-- `getRegexForMethod`. -/
def getRegexForMethod (httpMethod : String) : String :=
  if httpMethod = WildcardHTTPMethod then RegexMatchAll else httpMethod

/-- `getHeadersForRoute`: the method header, the `host` header as `:authority`, then the
    other headers in map order. -/
def getHeadersForRoute (method : String) (headersMap : Finset (String × String)) :
    List HeaderMatcher :=
  let entries := it.headers.enum headersMap
  let methodsHeader : HeaderMatcher :=
    { Name := methodHeaderKey, SafeRegexMatch := getRegexForMethod method }
  let hostHeader := match entries.find? (·.1 = httpHostHeaderKey) with
    | some (_, hostHeaderValue) => [{ Name := authorityHeaderKey, SafeRegexMatch := hostHeaderValue }]
    | none => []
  methodsHeader :: hostHeader ++
    (entries.filter (·.1 ≠ httpHostHeaderKey)).map fun h => { Name := h.1, SafeRegexMatch := h.2 }

/-- `clusterWeightByName.Less`: by name, then by weight. -/
def clusterWeightLess (a b : ClusterWeight) : Prop :=
  if a.Name = b.Name then a.Weight < b.Weight else a.Name < b.Name

instance : DecidableRel clusterWeightLess := fun a b => by
  unfold clusterWeightLess; infer_instance

/-- `buildWeightedCluster`: `nil` when the weights (summed as a Go `int`) are below 1;
    otherwise the clusters, stably sorted. A stable sort along a strict weak order has one
    result, which insertion with "not after" computes. -/
def buildWeightedCluster (weightedClusters : Finset Trafficpolicy.WeightedCluster) :
    Option Xds.WeightedCluster :=
  let clusters := it.clusters.enum weightedClusters
  let total := clusters.foldl (fun total cluster => GoText.wrapInt64 (total + cluster.Weight)) 0
  if total < 1 then none
  else
    let wc := clusters.map fun cluster =>
      ({ Name := cluster.ClusterName, Weight := UInt32.ofInt cluster.Weight } : ClusterWeight)
    some { Clusters := wc.insertionSort (fun a b => ¬ clusterWeightLess b a)
           TotalWeight := UInt32.ofInt total }

/-- `buildRoute`. -/
def buildRoute (weightedClusters : RouteWeightedClusters) (method : String) : Xds.Route :=
  let m := weightedClusters.HTTPRouteMatch
  { Match :=
      { PathSpecifier := match m.PathMatchType with
          | .PathMatchRegex => .SafeRegex m.Path
          | .PathMatchExact => .Path m.Path
          | .PathMatchPrefix => .Prefix m.Path
        Headers := getHeadersForRoute it method m.Headers }
    WeightedClusters := buildWeightedCluster it weightedClusters.WeightedClusters
    RBACPerRoute := none }

/-! ## Inbound routes and their RBAC -/

/-- `buildInboundRBACFilterForRule`: one `ALLOW` policy, `rbac-for-route`, built from the
    rule's principals in set order. -/
def buildInboundRBACFilterForRule (rule : Rule) : RBAC :=
  let pb := (it.principals.enum rule.AllowedPrincipals).foldl PolicyBuilder.AddPrincipal {}
  { action := .ALLOW, policies := AList.singleton rbacPerRoutePolicyName pb.Build }

/-- `applyInboundRouteConfig`, for the RBAC part. -/
def applyInboundRouteConfig (route : Xds.Route) (rbacConfig : RBAC) : Xds.Route :=
  { route with RBACPerRoute := some rbacConfig }

/-- The routes `buildInboundRoutes` makes of one rule: one per sanitized method, each with
    the rule's RBAC policy. -/
def buildInboundRoutesForRule (rule : Rule) : List Xds.Route :=
  let allowedMethods := sanitizeHTTPMethods rule.Route.HTTPRouteMatch.Methods
  let rbacConfig := buildInboundRBACFilterForRule it rule
  allowedMethods.map fun method => applyInboundRouteConfig (buildRoute it rule.Route method) rbacConfig

/-- `buildInboundRoutes`. -/
def buildInboundRoutes (rules : List Rule) : List Xds.Route :=
  rules.flatMap (buildInboundRoutesForRule it)

/-! ## Route configurations -/

/-- `buildVirtualHostStub`. -/
def buildVirtualHostStub (namePrefix host : String) (domains : List String) : VirtualHost :=
  { Name := namePrefix ++ "|" ++ host, Domains := domains, Routes := [] }

/-- `BuildIngressConfiguration`: one virtual host per ingress policy, `nil` for none. -/
def BuildIngressConfiguration (ingress : List InboundTrafficPolicy) : Option RouteConfiguration :=
  if ingress.length = 0 then none
  else
    some { Name := IngressRouteConfigName
           VirtualHosts := ingress.map fun i =>
             { buildVirtualHostStub ingressVirtualHost i.Name i.Hostnames with
               Routes := buildInboundRoutes it i.Rules } }

/-! ## What an inbound route's RBAC lets through -/

/-- The RBAC policy of a rule lets through exactly the downstreams whose principal the rule
    allows; a rule that allows nobody, or the wildcard, lets everybody through. -/
theorem buildInboundRBACFilterForRule_allows {allows : RBAC → Downstream → Bool}
    (hallows : AllowsLaw allows) (rule : Rule) (d : Downstream) :
    allows (buildInboundRBACFilterForRule it rule) d = true ↔
      rule.AllowedPrincipals = ∅ ∨ WildcardPrincipal ∈ rule.AllowedPrincipals ∨
        ∃ n ∈ rule.AllowedPrincipals, d.principal = some n := by
  have hpol := PolicyBuilder.Build_addPrincipals_matches
    (it.principals.enum rule.AllowedPrincipals) [] d
  simp only [List.foldl_nil, Enumerator.mem_enum_iff, true_or, and_true] at hpol
  have hempty : it.principals.enum rule.AllowedPrincipals = [] ↔ rule.AllowedPrincipals = ∅ := by
    rw [← List.toFinset_eq_empty_iff, Enumerator.toFinset_enum]
  rw [hallows _ d rfl, ← hempty, ← hpol]
  simp [buildInboundRBACFilterForRule, AList.singleton_entries]

/-- Every inbound route comes from a rule and carries that rule's RBAC policy. -/
theorem mem_buildInboundRoutes {rules : List Rule} {rt : Xds.Route}
    (h : rt ∈ buildInboundRoutes it rules) :
    ∃ rule ∈ rules, ∃ method, rt =
      applyInboundRouteConfig (buildRoute it rule.Route method) (buildInboundRBACFilterForRule it rule) := by
  obtain ⟨rule, hrule, hrt⟩ := List.mem_flatMap.mp h
  obtain ⟨method, -, rfl⟩ := List.mem_map.mp hrt
  exact ⟨rule, hrule, method, rfl⟩

/-! ## Weighted clusters

`buildWeightedCluster` reads its set in map order, and its result does not depend on that
order: the total is a sum, wrapped as a Go `int` (`GoText.foldl_wrapInt64`), and the entries
are sorted along `clusterWeightByName`, a total order on distinct entries, so that there is
one sorted permutation of them (`insertionSort_entries_eq`). -/

/-- The entry `buildWeightedCluster` makes of a weighted cluster. -/
def clusterWeightOf (cluster : Trafficpolicy.WeightedCluster) : ClusterWeight :=
  { Name := cluster.ClusterName, Weight := UInt32.ofInt cluster.Weight }

/-- `clusterWeightByName` as a key into a linear order: the name, then the weight. -/
def clusterWeightKey (a : ClusterWeight) : Lex (String × Nat) := toLex (a.Name, a.Weight.toNat)

theorem clusterWeightKey_injective : Function.Injective clusterWeightKey := by
  intro a b h
  obtain ⟨n₁, w₁⟩ := a
  obtain ⟨n₂, w₂⟩ := b
  simp only [clusterWeightKey, toLex_inj, Prod.mk.injEq] at h
  rw [h.1, UInt32.toNat_inj.mp h.2]

theorem clusterWeightLess_iff {a b : ClusterWeight} :
    clusterWeightLess a b ↔ clusterWeightKey a < clusterWeightKey b := by
  rw [clusterWeightKey, clusterWeightKey, Prod.Lex.toLex_lt_toLex, clusterWeightLess]
  by_cases hname : a.Name = b.Name
  · simp [hname, UInt32.lt_iff_toNat_lt]
  · simp [hname]

theorem not_clusterWeightLess_iff {a b : ClusterWeight} :
    ¬ clusterWeightLess b a ↔ clusterWeightKey a ≤ clusterWeightKey b := by
  rw [clusterWeightLess_iff, not_lt]

/-! "Not after" in `clusterWeightByName` order, the order the entries end in, is total,
transitive and antisymmetric. -/

instance : Std.Total fun a b : ClusterWeight => ¬ clusterWeightLess b a :=
  ⟨fun a b => by simp only [not_clusterWeightLess_iff]; exact le_total _ _⟩

instance : IsTrans ClusterWeight fun a b => ¬ clusterWeightLess b a :=
  ⟨fun _ _ _ hab hbc => not_clusterWeightLess_iff.mpr
    (le_trans (not_clusterWeightLess_iff.mp hab) (not_clusterWeightLess_iff.mp hbc))⟩

instance : Std.Antisymm fun a b : ClusterWeight => ¬ clusterWeightLess b a :=
  ⟨fun _ _ hab hba => clusterWeightKey_injective
    (le_antisymm (not_clusterWeightLess_iff.mp hab) (not_clusterWeightLess_iff.mp hba))⟩

section weighted

variable (weightedClusters : Finset Trafficpolicy.WeightedCluster)

/-- `buildWeightedCluster` with its loop read off: the wrapped sum of the weights, and the
    entries of the clusters in map order, sorted. -/
theorem buildWeightedCluster_eq :
    buildWeightedCluster it weightedClusters =
      if GoText.wrapInt64 (∑ c ∈ weightedClusters, c.Weight) < 1 then none
      else some
        { Clusters := ((it.clusters.enum weightedClusters).map clusterWeightOf).insertionSort
            (fun a b => ¬ clusterWeightLess b a)
          TotalWeight := UInt32.ofInt (∑ c ∈ weightedClusters, c.Weight) } := by
  unfold buildWeightedCluster
  dsimp only
  rw [GoText.foldl_wrapInt64, Enumerator.sum_map_enum, GoText.ofInt_wrapInt64]
  rfl

/-- Sorting the entries gives one list, whatever order the set was listed in. -/
theorem insertionSort_entries_eq (E₁ E₂ : Enumerator Trafficpolicy.WeightedCluster) :
    ((E₁.enum weightedClusters).map clusterWeightOf).insertionSort
        (fun a b => ¬ clusterWeightLess b a) =
      ((E₂.enum weightedClusters).map clusterWeightOf).insertionSort
        (fun a b => ¬ clusterWeightLess b a) :=
  List.Perm.eq_of_pairwise' (List.pairwise_insertionSort _ _) (List.pairwise_insertionSort _ _)
    ((List.perm_insertionSort _ _).trans
      (((Enumerator.enum_perm E₁ E₂ weightedClusters).map _).trans
        (List.perm_insertionSort _ _).symm))

theorem buildWeightedCluster_eq_none_iff :
    buildWeightedCluster it weightedClusters = none ↔
      GoText.wrapInt64 (∑ c ∈ weightedClusters, c.Weight) < 1 := by
  rw [buildWeightedCluster_eq]
  by_cases htotal : GoText.wrapInt64 (∑ c ∈ weightedClusters, c.Weight) < 1
  · rw [if_pos htotal]
    exact iff_of_true rfl htotal
  · rw [if_neg htotal]
    exact iff_of_false (Option.some_ne_none _) htotal

/-- The result does not depend on the order the set is iterated in. -/
theorem buildWeightedCluster_order_independent (it' : MapOrder) :
    buildWeightedCluster it' weightedClusters = buildWeightedCluster it weightedClusters := by
  rw [buildWeightedCluster_eq, buildWeightedCluster_eq,
    insertionSort_entries_eq weightedClusters it'.clusters it.clusters]

/-- A weighted cluster that is built lists its entries sorted by name and weight, one for
    each cluster of the set, and its total weight is the `uint32` sum of theirs. -/
theorem buildWeightedCluster_of_eq_some {wc : Xds.WeightedCluster}
    (h : buildWeightedCluster it weightedClusters = some wc) :
    wc.Clusters.Pairwise (fun a b => ¬ clusterWeightLess b a) ∧
      (wc.Clusters : Multiset ClusterWeight) = weightedClusters.val.map clusterWeightOf ∧
      wc.TotalWeight = (wc.Clusters.map (·.Weight)).sum := by
  rw [buildWeightedCluster_eq] at h
  by_cases htotal : GoText.wrapInt64 (∑ c ∈ weightedClusters, c.Weight) < 1
  · rw [if_pos htotal] at h
    cases h
  · rw [if_neg htotal, Option.some.injEq] at h
    subst h
    have hperm := List.perm_insertionSort (fun a b => ¬ clusterWeightLess b a)
      ((it.clusters.enum weightedClusters).map clusterWeightOf)
    refine ⟨List.pairwise_insertionSort _ _, ?_, ?_⟩
    · rw [Multiset.coe_eq_coe.mpr hperm, ← Multiset.map_coe, Enumerator.coe_enum]
    · -- the entries' weights are the converted weights of the set, in some order
      rw [(hperm.map _).sum_eq, List.map_map, ← Enumerator.sum_map_enum it.clusters,
        GoText.ofInt_sum]
      rfl

/-- What `buildWeightedCluster` returns for every set: nothing exactly when the weights,
    summed as a Go `int`, are below 1; otherwise the entries sorted by name and weight, one
    for each cluster of the set, with the `uint32` sum of their weights as the total. The
    result is the same for every iteration order. -/
theorem buildWeightedCluster_spec :
    (buildWeightedCluster it weightedClusters = none ↔
        GoText.wrapInt64 (∑ c ∈ weightedClusters, c.Weight) < 1) ∧
      (∀ wc, buildWeightedCluster it weightedClusters = some wc →
        wc.Clusters.Pairwise (fun a b => ¬ clusterWeightLess b a) ∧
          (wc.Clusters : Multiset ClusterWeight) = weightedClusters.val.map clusterWeightOf ∧
          wc.TotalWeight = (wc.Clusters.map (·.Weight)).sum) ∧
      ∀ it' : MapOrder,
        buildWeightedCluster it' weightedClusters = buildWeightedCluster it weightedClusters :=
  ⟨buildWeightedCluster_eq_none_iff it weightedClusters,
    fun _ h => buildWeightedCluster_of_eq_some it weightedClusters h,
    buildWeightedCluster_order_independent it weightedClusters⟩

end weighted

/-- Two clusters of weight `2 ^ 62`: the weights sum to `2 ^ 63`, which a Go `int` holds as
    `-2 ^ 63`, so no weighted cluster is built. -/
theorem buildWeightedCluster_int_overflow :
    buildWeightedCluster ascendingOrder {⟨"a", 2 ^ 62⟩, ⟨"b", 2 ^ 62⟩} = none ∧
      1 ≤ ∑ c ∈ ({⟨"a", 2 ^ 62⟩, ⟨"b", 2 ^ 62⟩} : Finset Trafficpolicy.WeightedCluster),
        c.Weight := by
  have hsum : ∑ c ∈ ({⟨"a", 2 ^ 62⟩, ⟨"b", 2 ^ 62⟩} : Finset Trafficpolicy.WeightedCluster),
      c.Weight = 2 ^ 63 := by
    rw [Finset.sum_pair (by decide)]
    norm_num
  rw [buildWeightedCluster_eq_none_iff, hsum]
  exact ⟨by decide, by decide⟩

end OsmEdge.Rds
