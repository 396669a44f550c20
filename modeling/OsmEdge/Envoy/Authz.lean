import OsmEdge.Envoy.Rds.Route
import OsmEdge.Envoy.Lds.Rbac

/-
  Inbound authorisation in SMI mode, end to end: from the TrafficTargets, HTTPRouteGroups
  and TCPRoutes of the SMI client to what the RBAC filters of an upstream's sidecar let
  through.

  * `inboundRoute_allows`: each HTTP route of an upstream service carries an RBAC policy
    that lets through exactly the principals of the sources of the TrafficTargets that
    reference the route, or everybody when none of those TrafficTargets lists a source.
  * `inboundNetwork_allows`: the network filter lets a connection through exactly when some
    TrafficTarget for the identity, whose TCPRoutes are all found, lists its principal as a
    source or lists no source, and has its port among the TCPRoute ports taken modulo
    `2^16`, or has no TCPRoute port at all.

  Both conventions come from `PolicyBuilder.Build`, which turns an empty principal list into
  `any` and an empty port list into `any`; the reduction modulo `2^16` comes from
  `toUint16Slice`. What a filter lets through is Envoy's decision `allows`, taken with the law
  Envoy documents for an `ALLOW` filter (`Xds.AllowsLaw`).
-/

namespace OsmEdge.Authz

open OsmEdge.Xds OsmEdge.Rbac OsmEdge.Trafficpolicy OsmEdge.Catalog OsmEdge.Identity
  OsmEdge.Service OsmEdge.Rds OsmEdge.Lds

/-! ## Principals of sources -/

theorem mem_allowedDownstreamPrincipals {trustDomain : String} {t : TrafficTarget} {p : String} :
    p ∈ allowedDownstreamPrincipals trustDomain t ↔
      ∃ s ∈ t.Spec.Sources, (trafficTargetIdentityToSvcAccount s).AsPrincipal trustDomain = p := by
  simp [allowedDownstreamPrincipals]

/-- The principal of a source identity, as the network policy builds it, is the one of its
    service account. -/
theorem AsPrincipal_trafficTargetIdentity (s : IdentityBindingSubject) (trustDomain : String) :
    ServiceIdentity.AsPrincipal (trafficTargetIdentityToServiceIdentity s) trustDomain =
      (trafficTargetIdentityToSvcAccount s).AsPrincipal trustDomain := rfl

/-! ## The HTTP routes -/

section http

variable (it : MapOrder) (ms : MeshSpec) (trustDomain hostTrustDomain : String)
  (upstreamSvc : MeshService) (trafficTargets : List TrafficTarget)

/-- The rules of the inbound policy never allow the wildcard: it is never a source's
    principal. -/
theorem wildcard_not_mem_AllowedPrincipals {rule : Rule}
    (hrule : rule ∈ (buildInboundHTTPPolicyFromTrafficTarget ms trustDomain hostTrustDomain
      upstreamSvc trafficTargets).Rules) : WildcardPrincipal ∉ rule.AllowedPrincipals := by
  intro hw
  obtain ⟨t, -, -, hp⟩ :=
    (mem_AllowedPrincipals_buildInboundHTTPPolicy ms trustDomain hostTrustDomain upstreamSvc
      trafficTargets hrule _).mp hw
  obtain ⟨s, -, hs⟩ := mem_allowedDownstreamPrincipals.mp hp
  exact K8sServiceAccount.AsPrincipal_ne_wildcard _ _ hs

/-- A rule allows nobody exactly when no TrafficTarget referencing its route lists a
    source. -/
theorem AllowedPrincipals_eq_empty {rule : Rule}
    (hrule : rule ∈ (buildInboundHTTPPolicyFromTrafficTarget ms trustDomain hostTrustDomain
      upstreamSvc trafficTargets).Rules) :
    rule.AllowedPrincipals = ∅ ↔
      ∀ t ∈ trafficTargets, References ms trustDomain upstreamSvc t rule.Route →
        t.Spec.Sources = [] := by
  have hmem := mem_AllowedPrincipals_buildInboundHTTPPolicy ms trustDomain hostTrustDomain
    upstreamSvc trafficTargets hrule
  constructor
  · intro hempty t ht href
    -- a source of a referencing TrafficTarget would put its principal in the rule
    cases hsrc : t.Spec.Sources with
    | nil => rfl
    | cons s rest =>
      have hp : (trafficTargetIdentityToSvcAccount s).AsPrincipal trustDomain ∈
          rule.AllowedPrincipals :=
        (hmem _).mpr ⟨t, ht, href, mem_allowedDownstreamPrincipals.mpr ⟨s, by simp [hsrc], rfl⟩⟩
      rw [hempty] at hp
      cases hp
  · intro hnone
    ext p
    simp only [Finset.notMem_empty, iff_false]
    intro hp
    obtain ⟨t, ht, href, hpt⟩ := (hmem p).mp hp
    obtain ⟨s, hs, -⟩ := mem_allowedDownstreamPrincipals.mp hpt
    rw [hnone t ht href] at hs
    cases hs

/-- Each inbound HTTP route comes from a rule of the upstream's policy and carries an RBAC
    policy that lets a downstream through exactly when its principal is that of a source of
    a TrafficTarget referencing the route, or when no such TrafficTarget lists a source. -/
theorem inboundRoute_allows {allows : RBAC → Downstream → Bool} (hallows : AllowsLaw allows)
    {rt : Xds.Route}
    (hrt : rt ∈ buildInboundRoutes it (buildInboundHTTPPolicyFromTrafficTarget ms trustDomain
      hostTrustDomain upstreamSvc trafficTargets).Rules) :
    ∃ rule ∈ (buildInboundHTTPPolicyFromTrafficTarget ms trustDomain hostTrustDomain upstreamSvc
        trafficTargets).Rules, ∃ method rbac,
      rt = applyInboundRouteConfig (buildRoute it rule.Route method) rbac ∧
      ∀ d : Downstream, allows rbac d = true ↔
        (∀ t ∈ trafficTargets, References ms trustDomain upstreamSvc t rule.Route →
          t.Spec.Sources = []) ∨
        ∃ t ∈ trafficTargets, References ms trustDomain upstreamSvc t rule.Route ∧
          ∃ s ∈ t.Spec.Sources,
            d.principal = some ((trafficTargetIdentityToSvcAccount s).AsPrincipal trustDomain) := by
  obtain ⟨rule, hrule, method, rfl⟩ := mem_buildInboundRoutes it hrt
  refine ⟨rule, hrule, method, _, rfl, fun d => ?_⟩
  rw [buildInboundRBACFilterForRule_allows it hallows,
    AllowedPrincipals_eq_empty ms trustDomain hostTrustDomain upstreamSvc trafficTargets hrule]
  simp only [wildcard_not_mem_AllowedPrincipals ms trustDomain hostTrustDomain upstreamSvc
    trafficTargets hrule, false_or]
  refine or_congr_right ⟨?_, ?_⟩
  · rintro ⟨n, hn, hd⟩
    obtain ⟨t, ht, href, hnt⟩ := (mem_AllowedPrincipals_buildInboundHTTPPolicy ms trustDomain
      hostTrustDomain upstreamSvc trafficTargets hrule n).mp hn
    obtain ⟨s, hs, rfl⟩ := mem_allowedDownstreamPrincipals.mp hnt
    exact ⟨t, ht, href, s, hs, hd⟩
  · rintro ⟨t, ht, href, s, hs, hd⟩
    exact ⟨_, (mem_AllowedPrincipals_buildInboundHTTPPolicy ms trustDomain hostTrustDomain
      upstreamSvc trafficTargets hrule _).mpr
        ⟨t, ht, href, mem_allowedDownstreamPrincipals.mpr ⟨s, hs, rfl⟩⟩, hd⟩

end http

/-! ## The network filter -/

/-- The ports a TrafficTarget's TCPRoutes allow, as the filter compares them. -/
theorem toUint16Slice_port_iff (ps : List Int) (port : Nat) :
    (toUint16Slice ps = [] ∨ ∃ q ∈ toUint16Slice ps, q.toNat = port) ↔
      (ps = [] ∨ ∃ p ∈ ps, (p % 65536).toNat = port) := by
  simp [toUint16Slice, toNat_ofInt_uint16]

/-- What the policy of one listed TrafficTarget matches, in the terms of the TrafficTarget. -/
theorem policy_matches_iff (ms : MeshSpec) (t : TrafficTarget) (m : List TCPRouteMatch)
    (hm : getTCPRouteMatchesFromTrafficTarget ms t = .ok m) (trustDomain : String)
    (d : Downstream) :
    (buildRBACPolicyFromTrafficTarget
        { Name := namespacedKey t.Namespace t.Name
          Destination := trafficTargetIdentityToServiceIdentity t.Spec.Destination
          Sources := t.Spec.Sources.map trafficTargetIdentityToServiceIdentity
          TCPRouteMatches := m } trustDomain).matches d = true ↔
      (t.Spec.Sources = [] ∨ ∃ s ∈ t.Spec.Sources,
        d.principal = some ((trafficTargetIdentityToSvcAccount s).AsPrincipal trustDomain)) ∧
      (referencedTCPPorts ms t.Namespace t.Spec.Rules = [] ∨
        ∃ p ∈ referencedTCPPorts ms t.Namespace t.Spec.Rules, (p % 65536).toNat = d.destinationPort) := by
  rw [buildRBACPolicyFromTrafficTarget_matches, allowedPorts,
    tcpRouteMatchesOf_ports ms t.Namespace t.Spec.Rules m hm, toUint16Slice_port_iff]
  simp only [List.map_eq_nil_iff, List.mem_map, exists_exists_and_eq_and,
    AsPrincipal_trafficTargetIdentity]
  -- a source identity is never the wildcard
  have hnw : ¬ ∃ s ∈ t.Spec.Sources,
      (trafficTargetIdentityToSvcAccount s).AsPrincipal trustDomain = WildcardPrincipal :=
    fun ⟨s, _, hw⟩ => K8sServiceAccount.AsPrincipal_ne_wildcard _ _ hw
  simp only [hnw, false_or]

/-- The network filter of an identity lets a connection through exactly when some
    TrafficTarget for the identity, whose TCPRoutes are all found, lists the connection's
    principal as a source or lists no source, and has its port among its TCPRoute ports
    modulo `2^16` or has no TCPRoute port. -/
theorem inboundNetwork_allows {allows : RBAC → Downstream → Bool} (hallows : AllowsLaw allows)
    (ms : MeshSpec) (upstream : ServiceIdentity) (trustDomain : String) (d : Downstream) :
    allows (buildInboundRBACPolicies ms false upstream trustDomain) d = true ↔
      ∃ t ∈ ms.ListTrafficTargets,
        (trafficTargetIdentityToSvcAccount t.Spec.Destination).ToServiceIdentity = upstream ∧
        TCPRoutesResolve ms t.Namespace t.Spec.Rules ∧
        (t.Spec.Sources = [] ∨ ∃ s ∈ t.Spec.Sources,
          d.principal = some ((trafficTargetIdentityToSvcAccount s).AsPrincipal trustDomain)) ∧
        (referencedTCPPorts ms t.Namespace t.Spec.Rules = [] ∨
          ∃ p ∈ referencedTCPPorts ms t.Namespace t.Spec.Rules,
            (p % 65536).toNat = d.destinationPort) := by
  rw [buildInboundRBACPolicies_allows hallows]
  constructor
  · rintro ⟨tt, htt, hmatch⟩
    obtain ⟨t, ht, hdest, m, hm, rfl⟩ := mem_ListInboundTrafficTargetsWithRoutes.mp htt
    have hres : TCPRoutesResolve ms t.Namespace t.Spec.Rules :=
      (tcpRouteMatchesOf_ok_iff ms t.Namespace t.Spec.Rules).mp ⟨m, hm⟩
    exact ⟨t, ht, hdest, hres, (policy_matches_iff ms t m hm trustDomain d).mp hmatch⟩
  · rintro ⟨t, ht, hdest, hres, hmatch⟩
    obtain ⟨m, hm⟩ := (tcpRouteMatchesOf_ok_iff ms t.Namespace t.Spec.Rules).mpr hres
    exact ⟨_, mem_ListInboundTrafficTargetsWithRoutes.mpr ⟨t, ht, hdest, m, hm, rfl⟩,
      (policy_matches_iff ms t m hm trustDomain d).mpr hmatch⟩

/-! ## Inbound authorisation -/

/-- What the inbound RBAC filters of an upstream let through in SMI mode: on an HTTP route,
    the principals of the sources of the TrafficTargets referencing it, or everybody when
    none of them lists a source; on the network filter, a connection whose principal a
    TrafficTarget for the identity lists (or which lists none) and whose port is one of its
    TCPRoute ports modulo `2^16` (or which has no TCPRoute port). This holds of every RBAC
    filter that behaves as Envoy documents an `ALLOW` filter. -/
theorem inbound_authz_exact {allows : RBAC → Downstream → Bool} (hallows : AllowsLaw allows) :
    (∀ (it : MapOrder) (ms : MeshSpec) (trustDomain hostTrustDomain : String)
        (upstreamSvc : MeshService) (trafficTargets : List TrafficTarget) (rt : Xds.Route),
      rt ∈ buildInboundRoutes it (buildInboundHTTPPolicyFromTrafficTarget ms trustDomain
        hostTrustDomain upstreamSvc trafficTargets).Rules →
      ∃ rule ∈ (buildInboundHTTPPolicyFromTrafficTarget ms trustDomain hostTrustDomain
          upstreamSvc trafficTargets).Rules, ∃ method rbac,
        rt = applyInboundRouteConfig (buildRoute it rule.Route method) rbac ∧
        ∀ d : Downstream, allows rbac d = true ↔
          (∀ t ∈ trafficTargets, References ms trustDomain upstreamSvc t rule.Route →
            t.Spec.Sources = []) ∨
          ∃ t ∈ trafficTargets, References ms trustDomain upstreamSvc t rule.Route ∧
            ∃ s ∈ t.Spec.Sources,
              d.principal = some ((trafficTargetIdentityToSvcAccount s).AsPrincipal trustDomain)) ∧
    (∀ (ms : MeshSpec) (upstream : ServiceIdentity) (trustDomain : String) (d : Downstream),
      allows (buildInboundRBACPolicies ms false upstream trustDomain) d = true ↔
        ∃ t ∈ ms.ListTrafficTargets,
          (trafficTargetIdentityToSvcAccount t.Spec.Destination).ToServiceIdentity = upstream ∧
          TCPRoutesResolve ms t.Namespace t.Spec.Rules ∧
          (t.Spec.Sources = [] ∨ ∃ s ∈ t.Spec.Sources,
            d.principal = some ((trafficTargetIdentityToSvcAccount s).AsPrincipal trustDomain)) ∧
          (referencedTCPPorts ms t.Namespace t.Spec.Rules = [] ∨
            ∃ p ∈ referencedTCPPorts ms t.Namespace t.Spec.Rules,
              (p % 65536).toNat = d.destinationPort)) :=
  ⟨fun it ms trustDomain hostTrustDomain upstreamSvc trafficTargets _ hrt =>
    inboundRoute_allows it ms trustDomain hostTrustDomain upstreamSvc trafficTargets hallows hrt,
   inboundNetwork_allows hallows⟩

/-- A TrafficTarget for `bookstore` in `default` that lists no source, and references one
    HTTPRouteGroup match and one TCPRoute. -/
def openTrafficTarget : TrafficTarget :=
  { Namespace := "default", Name := "open"
    Spec :=
      { Destination := { Kind := "ServiceAccount", Name := "bookstore", Namespace := "default" }
        Sources := []
        Rules := [{ Kind := "HTTPRouteGroup", Name := "routes", Matches := ["all"] },
          { Kind := "TCPRoute", Name := "tcp", Matches := [] }] } }

/-- The SMI resources around `openTrafficTarget`; the TCPRoute's one port is 65616. -/
def openMeshSpec : MeshSpec :=
  { trafficTargets := [openTrafficTarget]
    httpRouteGroups :=
      [{ Namespace := "default"
         Name := "routes"
         Matches := some [{ Name := "all", Methods := [], PathRegex := "", Headers := ∅ }] }]
    tcpRoutes := [{ Namespace := "default", Name := "tcp", Ports := [65616] }]
    IsMonitoredNamespace := fun _ => true
    trafficTargets_keys := by decide
    httpRouteGroups_keys := by decide
    tcpRoutes_keys := by decide }

/-- The upstream service. -/
def bookstoreService : MeshService :=
  { Namespace := "default", Name := "bookstore", Port := 80, TargetPort := 80, Protocol := "http" }

/-- The inbound policy of `bookstoreService` built from `openTrafficTarget`. -/
def openPolicy : InboundTrafficPolicy :=
  buildInboundHTTPPolicyFromTrafficTarget openMeshSpec "cluster.local" "cluster.local"
    bookstoreService [openTrafficTarget]

/-- The HTTP clause at the one route of `openPolicy`. -/
theorem inbound_authz_exact_open_route :
    ∃ rt ∈ buildInboundRoutes ascendingOrder openPolicy.Rules,
      ∃ rule ∈ openPolicy.Rules, ∃ method rbac,
        rt = applyInboundRouteConfig (buildRoute ascendingOrder rule.Route method) rbac ∧
        ∀ d : Downstream, rbac.allows d = true ↔
          (∀ t ∈ [openTrafficTarget], References openMeshSpec "cluster.local" bookstoreService t
            rule.Route → t.Spec.Sources = []) ∨
          ∃ t ∈ [openTrafficTarget], References openMeshSpec "cluster.local" bookstoreService t
            rule.Route ∧ ∃ s ∈ t.Spec.Sources,
              d.principal = some ((trafficTargetIdentityToSvcAccount s).AsPrincipal "cluster.local") := by
  have hlen : (buildInboundRoutes ascendingOrder openPolicy.Rules).length = 1 := by decide
  have hne : buildInboundRoutes ascendingOrder openPolicy.Rules ≠ [] :=
    List.ne_nil_of_length_pos (by omega)
  exact ⟨_, List.head_mem hne, (inbound_authz_exact RBAC.allows_law).1 ascendingOrder openMeshSpec
    "cluster.local" "cluster.local" bookstoreService [openTrafficTarget] _ (List.head_mem hne)⟩

/-- A downstream that no TrafficTarget names, connecting to port 80. -/
def intruder : Downstream := { principal := some "intruder.default.cluster.local", destinationPort := 80 }

/-- Authorisation is not fail-closed: a TrafficTarget that lists no source lets a downstream
    it does not name through, on its HTTP route and on the network filter, and the network
    filter lets port 80 through for a TCPRoute that lists only 65616. -/
theorem inbound_authz_fails_open :
    openTrafficTarget.Spec.Sources = [] ∧
    openMeshSpec.tcpRoutes.map (·.Ports) = [[65616]] ∧
    (buildInboundRoutes ascendingOrder openPolicy.Rules).any
      (fun rt => rt.RBACPerRoute.any (·.allows intruder)) = true ∧
    (buildInboundRBACPolicies openMeshSpec false "bookstore.default" "cluster.local").allows
      intruder = true := by
  decide

end OsmEdge.Authz
