import OsmEdge.Catalog.Smi
import OsmEdge.Trafficpolicy.Rules
import OsmEdge.Service
import OsmEdge.Constants
import Mathlib.Data.List.AList

/-
  What the mesh catalog makes of TrafficTargets for one upstream identity
  (`pkg/catalog/traffictarget.go`, `pkg/catalog/inbound_traffic_policies.go`).

  * `ListInboundTrafficTargetsWithRoutes`: each TrafficTarget whose destination is the
    upstream, with its sources as identities and the ports of the TCPRoutes it references.
    A TrafficTarget that references a TCPRoute the client cannot find is dropped whole.
    A TCPRoute port is a Go `int` and is converted with `uint16(port)`, which keeps its low
    16 bits.
  * `buildInboundHTTPPolicyFromTrafficTarget`: one rule per HTTPRouteGroup match a
    TrafficTarget references, allowing the principals of its sources; the rules of all
    TrafficTargets are merged with `MergeRules`.

  The trust domain of principals (`mc.GetTrustDomain()`) and the one `GetHostnamesForService`
  reads (a package variable of `pkg/k8s`) are separate arguments.
-/

namespace OsmEdge.Catalog

open OsmEdge.Identity OsmEdge.Trafficpolicy OsmEdge.Service OsmEdge.Constants

/-- `errNoTrafficSpecFoundForTrafficPolicy`. -/
def errNoTrafficSpecFoundForTrafficPolicy : String := "no traffic spec found for the traffic policy"

/-- `trafficTargetIdentityToSvcAccount`. -/
def trafficTargetIdentityToSvcAccount (identitySubject : IdentityBindingSubject) :
    K8sServiceAccount :=
  { Name := identitySubject.Name, Namespace := identitySubject.Namespace }

/-- `trafficTargetIdentityToServiceIdentity`. -/
def trafficTargetIdentityToServiceIdentity (identitySubject : IdentityBindingSubject) :
    ServiceIdentity :=
  (trafficTargetIdentityToSvcAccount identitySubject).ToServiceIdentity

/-! ## TrafficTargets with their TCP routes -/

/-- `toUint16Slice`: `uint16(port)` keeps the low 16 bits of the Go `int`. -/
def toUint16Slice (ports : List Int) : List UInt16 := ports.map UInt16.ofInt

/-- The loop of `getTCPRouteMatchesFromTrafficTarget` over the rules of a TrafficTarget in
    namespace `ns`: rules of another kind are skipped, and a TCPRoute the client does not
    find ends the loop with an error. -/
def tcpRouteMatchesOf (ms : MeshSpec) (ns : String) :
    List TrafficTargetRule → Except String (List TCPRouteMatch)
  | [] => .ok []
  | rule :: rules =>
    if rule.Kind ≠ TCPRouteKind then tcpRouteMatchesOf ms ns rules
    else
      match ms.GetTCPRoute (namespacedKey ns rule.Name) with
      | none => .error errNoTrafficSpecFoundForTrafficPolicy
      | some tcpRoute =>
        (tcpRouteMatchesOf ms ns rules).map ({ Ports := toUint16Slice tcpRoute.Ports } :: ·)

/-- `getTCPRouteMatchesFromTrafficTarget`. -/
def getTCPRouteMatchesFromTrafficTarget (ms : MeshSpec) (trafficTarget : TrafficTarget) :
    Except String (List TCPRouteMatch) :=
  tcpRouteMatchesOf ms trafficTarget.Namespace trafficTarget.Spec.Rules

/-- The `TrafficTargetWithRoutes` of one listed TrafficTarget for `upstream`, if it is one. -/
def inboundTrafficTargetWithRoutes (ms : MeshSpec) (upstream : ServiceIdentity)
    (t : TrafficTarget) : Option TrafficTargetWithRoutes :=
  if (trafficTargetIdentityToSvcAccount t.Spec.Destination).ToServiceIdentity ≠ upstream then none
  else
    match getTCPRouteMatchesFromTrafficTarget ms t with
    | .error _ => none
    | .ok tcpRouteMatches =>
      some { Name := namespacedKey t.Namespace t.Name
             Destination := trafficTargetIdentityToServiceIdentity t.Spec.Destination
             Sources := t.Spec.Sources.map trafficTargetIdentityToServiceIdentity
             TCPRouteMatches := tcpRouteMatches }

/-- `ListInboundTrafficTargetsWithRoutes`; nothing in permissive mode. -/
def ListInboundTrafficTargetsWithRoutes (ms : MeshSpec) (IsPermissiveTrafficPolicyMode : Bool)
    (upstream : ServiceIdentity) : List TrafficTargetWithRoutes :=
  if IsPermissiveTrafficPolicyMode then []
  else (ms.ListTrafficTargets).filterMap (inboundTrafficTargetWithRoutes ms upstream)

/-! ### What the listing keeps -/

/-- `uint16(port)` is the port modulo `2^16`. -/
theorem toNat_ofInt_uint16 (p : Int) : (UInt16.ofInt p).toNat = (p % 65536).toNat := by
  have h : p % 65536 < 65536 := Int.emod_lt_of_pos p (by omega)
  simp [UInt16.ofInt, h]

/-- Every TCPRoute kind rule of a TrafficTarget in namespace `ns` names a TCPRoute the client
    finds. -/
def TCPRoutesResolve (ms : MeshSpec) (ns : String) (rules : List TrafficTargetRule) : Prop :=
  ∀ rule ∈ rules, rule.Kind = TCPRouteKind → (ms.GetTCPRoute (namespacedKey ns rule.Name)).isSome

/-- The ports, as written, of the TCPRoutes the rules of a TrafficTarget in namespace `ns`
    reference. -/
def referencedTCPPorts (ms : MeshSpec) (ns : String) (rules : List TrafficTargetRule) : List Int :=
  rules.flatMap fun rule =>
    if rule.Kind = TCPRouteKind then
      ((ms.GetTCPRoute (namespacedKey ns rule.Name)).map (·.Ports)).getD []
    else []

/-- The TCP route loop succeeds exactly when every referenced TCPRoute is found. -/
theorem tcpRouteMatchesOf_ok_iff (ms : MeshSpec) (ns : String) :
    ∀ rules : List TrafficTargetRule,
      (∃ m, tcpRouteMatchesOf ms ns rules = .ok m) ↔ TCPRoutesResolve ms ns rules
  | [] => by simp [tcpRouteMatchesOf, TCPRoutesResolve]
  | rule :: rules => by
    have ih := tcpRouteMatchesOf_ok_iff ms ns rules
    unfold TCPRoutesResolve at ih ⊢
    rw [List.forall_mem_cons]
    unfold tcpRouteMatchesOf
    by_cases hk : rule.Kind = TCPRouteKind
    · rw [if_neg (not_not.mpr hk)]
      cases hr : ms.GetTCPRoute (namespacedKey ns rule.Name) with
      | none => simp [hk]
      | some tcpRoute =>
        simp only [hk, Option.isSome_some, forall_const, true_and, ← ih]
        constructor
        · rintro ⟨m, hm⟩
          cases hrest : tcpRouteMatchesOf ms ns rules with
          | error e => rw [hrest] at hm; cases hm
          | ok m' => exact ⟨m', rfl⟩
        · rintro ⟨m', hm'⟩
          exact ⟨_, by rw [hm']; rfl⟩
    · rw [if_pos hk, ih]
      simp [hk]

/-- On success, the ports the loop collects are the referenced ports, each taken modulo
    `2^16`. -/
theorem tcpRouteMatchesOf_ports (ms : MeshSpec) (ns : String) :
    ∀ (rules : List TrafficTargetRule) (m : List TCPRouteMatch),
      tcpRouteMatchesOf ms ns rules = .ok m →
        m.flatMap (·.Ports) = toUint16Slice (referencedTCPPorts ms ns rules)
  | [], m, h => by
    simp only [tcpRouteMatchesOf, Except.ok.injEq] at h
    subst h
    rfl
  | rule :: rules, m, h => by
    unfold tcpRouteMatchesOf at h
    by_cases hk : rule.Kind = TCPRouteKind
    · rw [if_neg (not_not.mpr hk)] at h
      cases hr : ms.GetTCPRoute (namespacedKey ns rule.Name) with
      | none => rw [hr] at h; cases h
      | some tcpRoute =>
        rw [hr] at h
        cases hrest : tcpRouteMatchesOf ms ns rules with
        | error e => rw [hrest] at h; cases h
        | ok m' =>
          rw [hrest] at h
          cases h
          rw [List.flatMap_cons, tcpRouteMatchesOf_ports ms ns rules m' hrest]
          simp [referencedTCPPorts, hk, hr, toUint16Slice]
    · rw [if_pos hk] at h
      rw [tcpRouteMatchesOf_ports ms ns rules m h]
      simp [referencedTCPPorts, hk]

/-- A listed TrafficTarget with routes is one TrafficTarget of the cache for the upstream,
    whose TCPRoutes are all found. -/
theorem mem_ListInboundTrafficTargetsWithRoutes {ms : MeshSpec} {upstream : ServiceIdentity}
    {tt : TrafficTargetWithRoutes} :
    tt ∈ ListInboundTrafficTargetsWithRoutes ms false upstream ↔
      ∃ t ∈ ms.ListTrafficTargets,
        (trafficTargetIdentityToSvcAccount t.Spec.Destination).ToServiceIdentity = upstream ∧
        ∃ m, getTCPRouteMatchesFromTrafficTarget ms t = .ok m ∧
          tt = { Name := namespacedKey t.Namespace t.Name
                 Destination := trafficTargetIdentityToServiceIdentity t.Spec.Destination
                 Sources := t.Spec.Sources.map trafficTargetIdentityToServiceIdentity
                 TCPRouteMatches := m } := by
  simp only [ListInboundTrafficTargetsWithRoutes, Bool.false_eq_true, if_false, List.mem_filterMap]
  refine exists_congr fun t => and_congr_right fun _ => ?_
  unfold inboundTrafficTargetWithRoutes
  by_cases hd : (trafficTargetIdentityToSvcAccount t.Spec.Destination).ToServiceIdentity = upstream
  · rw [if_neg (not_not.mpr hd)]
    cases hm : getTCPRouteMatchesFromTrafficTarget ms t with
    | error e => simp
    | ok m => simp [hd, eq_comm]
  · simp [hd]

/-! ## HTTP routes from HTTPRouteGroups -/

/-- `getTrafficSpecName`. -/
def getTrafficSpecName (trafficSpecKind trafficSpecNamespace trafficSpecName : String) : String :=
  trafficSpecKind ++ "/" ++ trafficSpecNamespace ++ "/" ++ trafficSpecName

/-- The route of one HTTPRouteGroup match: a regex path, with the wildcards for an empty
    path or an empty method list. -/
def serviceRouteOf (m : HTTPMatch) : HTTPRouteMatch :=
  { Path := if m.PathRegex = "" then RegexMatchAll else m.PathRegex
    PathMatchType := .PathMatchRegex
    Methods := if m.Methods.length = 0 then [WildcardHTTPMethod] else m.Methods
    Headers := m.Headers }

/-- The routes of an HTTPRouteGroup by match name (`map[TrafficSpecMatchName]HTTPRouteMatch`). -/
abbrev MatchRoutes := AList (fun _ : String => HTTPRouteMatch)

/-- `getHTTPPathsPerRoute`: for every monitored group with matches, its routes by match
    name, keyed by the group's spec name. -/
def getHTTPPathsPerRoute (ms : MeshSpec) : AList (fun _ : String => MatchRoutes) :=
  ms.ListHTTPTrafficSpecs.foldl (fun routePolicies trafficSpecs =>
    match trafficSpecs.Matches with
    | none => routePolicies
    | some specMatches =>
      let specKey := getTrafficSpecName HTTPRouteGroupKind trafficSpecs.Namespace trafficSpecs.Name
      routePolicies.insert specKey
        (specMatches.foldl (fun routes m => routes.insert m.Name (serviceRouteOf m)) ∅)) ∅

/-- `routesFromRules`: every match a rule names that its HTTPRouteGroup defines. -/
def routesFromRules (ms : MeshSpec) (rules : List TrafficTargetRule)
    (trafficTargetNamespace : String) : List HTTPRouteMatch :=
  let specMatchRoute := getHTTPPathsPerRoute ms
  if specMatchRoute.entries.length = 0 then []
  else
    rules.flatMap fun rule =>
      let trafficSpecName := getTrafficSpecName HTTPRouteGroupKind trafficTargetNamespace rule.Name
      rule.Matches.filterMap fun m => (specMatchRoute.lookup trafficSpecName).bind (·.lookup m)

/-- `NewRouteWeightedCluster`; the retry policy and rate limit it takes from the upstream
    traffic setting are left out. -/
def NewRouteWeightedCluster (route : HTTPRouteMatch) (weightedClusters : List WeightedCluster) :
    RouteWeightedClusters :=
  { HTTPRouteMatch := route, WeightedClusters := weightedClusters.toFinset }

/-- The principals of a TrafficTarget's sources (the set filled by the loop of
    `getRoutingRulesFromTrafficTarget`). -/
def allowedDownstreamPrincipals (trustDomain : String) (trafficTarget : TrafficTarget) :
    Finset String :=
  (trafficTarget.Spec.Sources.map fun source =>
    (trafficTargetIdentityToSvcAccount source).AsPrincipal trustDomain).toFinset

/-- `getRoutingRulesFromTrafficTarget`. -/
def getRoutingRulesFromTrafficTarget (ms : MeshSpec) (trustDomain : String)
    (trafficTarget : TrafficTarget) (routingCluster : WeightedCluster) : List Rule :=
  (routesFromRules ms trafficTarget.Spec.Rules trafficTarget.Namespace).map fun httpRouteMatch =>
    { Route := NewRouteWeightedCluster httpRouteMatch [routingCluster]
      AllowedPrincipals := allowedDownstreamPrincipals trustDomain trafficTarget }

/-- The local cluster of an upstream service, which every inbound route sends to. -/
def localClusterOf (upstreamSvc : MeshService) : WeightedCluster :=
  { ClusterName := upstreamSvc.SidecarLocalClusterName, Weight := ClusterWeightAcceptAll }

/-- `buildInboundHTTPPolicyFromTrafficTarget`. -/
def buildInboundHTTPPolicyFromTrafficTarget (ms : MeshSpec) (trustDomain hostTrustDomain : String)
    (upstreamSvc : MeshService) (trafficTargets : List TrafficTarget) : InboundTrafficPolicy :=
  { Name := upstreamSvc.FQDN
    Hostnames := GetHostnamesForService hostTrustDomain upstreamSvc true
    Rules := trafficTargets.foldl (fun routingRules trafficTarget =>
      MergeRules routingRules
        (getRoutingRulesFromTrafficTarget ms trustDomain trafficTarget (localClusterOf upstreamSvc)))
      [] }

/-! ## The rules of an inbound policy -/

section rules

variable (ms : MeshSpec) (trustDomain hostTrustDomain : String) (upstreamSvc : MeshService)
  (trafficTargets : List TrafficTarget)

/-- A TrafficTarget references route `r` of the upstream service's policy. -/
def References (trafficTarget : TrafficTarget) (r : RouteWeightedClusters) : Prop :=
  r ∈ routes (getRoutingRulesFromTrafficTarget ms trustDomain trafficTarget
    (localClusterOf upstreamSvc))

theorem principalsOn_getRoutingRulesFromTrafficTarget (trafficTarget : TrafficTarget)
    (routingCluster : WeightedCluster) (r : RouteWeightedClusters) (p : String) :
    p ∈ principalsOn (getRoutingRulesFromTrafficTarget ms trustDomain trafficTarget routingCluster) r ↔
      r ∈ routes (getRoutingRulesFromTrafficTarget ms trustDomain trafficTarget routingCluster) ∧
        p ∈ allowedDownstreamPrincipals trustDomain trafficTarget := by
  simp only [mem_principalsOn, getRoutingRulesFromTrafficTarget, routes, List.mem_map]
  constructor
  · rintro ⟨x, ⟨m, hm, rfl⟩, rfl, hp⟩
    exact ⟨⟨_, ⟨m, hm, rfl⟩, rfl⟩, hp⟩
  · rintro ⟨⟨x, ⟨m, hm, rfl⟩, rfl⟩, hp⟩
    exact ⟨_, ⟨m, hm, rfl⟩, rfl, hp⟩

/-- The inbound policy has one rule per route. -/
theorem buildInboundHTTPPolicy_nodup :
    (routes (buildInboundHTTPPolicyFromTrafficTarget ms trustDomain hostTrustDomain upstreamSvc
      trafficTargets).Rules).Nodup :=
  foldl_MergeRules_nodup _ trafficTargets [] List.nodup_nil

/-- The routes of the inbound policy are those some TrafficTarget references. -/
theorem mem_routes_buildInboundHTTPPolicy (r : RouteWeightedClusters) :
    r ∈ routes (buildInboundHTTPPolicyFromTrafficTarget ms trustDomain hostTrustDomain upstreamSvc
      trafficTargets).Rules ↔
      ∃ t ∈ trafficTargets, References ms trustDomain upstreamSvc t r := by
  rw [buildInboundHTTPPolicyFromTrafficTarget, mem_routes_foldl_MergeRules]
  simp [References, routes]

/-- Each rule of the inbound policy allows exactly the principals of the sources of the
    TrafficTargets that reference its route. -/
theorem mem_AllowedPrincipals_buildInboundHTTPPolicy {rule : Rule}
    (hrule : rule ∈ (buildInboundHTTPPolicyFromTrafficTarget ms trustDomain hostTrustDomain
      upstreamSvc trafficTargets).Rules) (p : String) :
    p ∈ rule.AllowedPrincipals ↔
      ∃ t ∈ trafficTargets, References ms trustDomain upstreamSvc t rule.Route ∧
        p ∈ allowedDownstreamPrincipals trustDomain t := by
  rw [AllowedPrincipals_eq_principalsOn (buildInboundHTTPPolicy_nodup ms trustDomain
    hostTrustDomain upstreamSvc trafficTargets) hrule]
  rw [buildInboundHTTPPolicyFromTrafficTarget, mem_principalsOn_foldl_MergeRules]
  simp only [principalsOn_nil, Finset.notMem_empty, false_or]
  simp only [principalsOn_getRoutingRulesFromTrafficTarget, References]

end rules

/-- `MergeRules` groups rules by route: into a list with one rule per route it merges a list
    of rules into one rule per route, the original routes in place and the new ones appended
    at their first occurrence, each rule holding the principals of every rule of its route on
    either side. So the inbound policy for an upstream service has one rule per route that
    some TrafficTarget references, and no other, allowing exactly the sources of the
    TrafficTargets that reference it. -/
theorem MergeRules_one_rule_per_route :
    (∀ originalRules latestRules : List Rule, (routes originalRules).Nodup →
      (routes (MergeRules originalRules latestRules)).Nodup ∧
      routes (MergeRules originalRules latestRules) =
        routes originalRules ++ GoSet.collectNew ((routes latestRules).filter (· ∉ routes originalRules)) ∧
      (∀ r, r ∈ routes (MergeRules originalRules latestRules) ↔
        r ∈ routes originalRules ∨ r ∈ routes latestRules) ∧
      ∀ x ∈ MergeRules originalRules latestRules,
        x.AllowedPrincipals = principalsOn (originalRules ++ latestRules) x.Route) ∧
    (∀ (ms : MeshSpec) (trustDomain hostTrustDomain : String) (upstreamSvc : MeshService)
        (trafficTargets : List TrafficTarget),
      (routes (buildInboundHTTPPolicyFromTrafficTarget ms trustDomain hostTrustDomain upstreamSvc
        trafficTargets).Rules).Nodup ∧
      (∀ r, r ∈ routes (buildInboundHTTPPolicyFromTrafficTarget ms trustDomain hostTrustDomain
          upstreamSvc trafficTargets).Rules ↔
        ∃ t ∈ trafficTargets, References ms trustDomain upstreamSvc t r) ∧
      ∀ rule ∈ (buildInboundHTTPPolicyFromTrafficTarget ms trustDomain hostTrustDomain upstreamSvc
          trafficTargets).Rules, ∀ p, p ∈ rule.AllowedPrincipals ↔
        ∃ t ∈ trafficTargets, References ms trustDomain upstreamSvc t rule.Route ∧
          p ∈ allowedDownstreamPrincipals trustDomain t) := by
  refine ⟨fun originalRules latestRules h => ?_, fun ms trustDomain hostTrustDomain upstreamSvc trafficTargets =>
    ⟨buildInboundHTTPPolicy_nodup ms trustDomain hostTrustDomain upstreamSvc trafficTargets,
      mem_routes_buildInboundHTTPPolicy ms trustDomain hostTrustDomain upstreamSvc trafficTargets,
      fun rule hrule p => mem_AllowedPrincipals_buildInboundHTTPPolicy ms trustDomain hostTrustDomain
        upstreamSvc trafficTargets hrule p⟩⟩
  have hnodup := MergeRules_nodup originalRules latestRules h
  refine ⟨hnodup, ?_, mem_routes_MergeRules originalRules latestRules, fun x hx => ?_⟩
  · rw [routes_MergeRules, GoSet.foldl_addNew_eq]
  · -- the one rule of its route holds all the principals on it
    rw [AllowedPrincipals_eq_principalsOn hnodup hx, MergeRules_principalsOn, principalsOn_append]

/-- A rule allowing one principal on `GET /buy`. -/
def buyRule (principal : String) : Rule :=
  { Route := { HTTPRouteMatch := { Path := "/buy", PathMatchType := .PathMatchRegex, Methods := ["GET"]
                                   Headers := ∅ }
               WeightedClusters := ∅ }
    AllowedPrincipals := {principal} }

/-- Two rules of one route, merged into no rule, give one rule for both principals. -/
theorem MergeRules_one_rule_per_route_buy :
    (routes (MergeRules [] [buyRule "bookbuyer", buyRule "bookthief"])).Nodup ∧
      routes (MergeRules [] [buyRule "bookbuyer", buyRule "bookthief"]) =
        routes [] ++ GoSet.collectNew ((routes [buyRule "bookbuyer", buyRule "bookthief"]).filter (· ∉ routes [])) ∧
      (∀ r, r ∈ routes (MergeRules [] [buyRule "bookbuyer", buyRule "bookthief"]) ↔
        r ∈ routes [] ∨ r ∈ routes [buyRule "bookbuyer", buyRule "bookthief"]) ∧
      ∀ x ∈ MergeRules [] [buyRule "bookbuyer", buyRule "bookthief"],
        x.AllowedPrincipals = principalsOn ([] ++ [buyRule "bookbuyer", buyRule "bookthief"]) x.Route :=
  MergeRules_one_rule_per_route.1 [] _ List.nodup_nil

end OsmEdge.Catalog
