import OsmEdge.Xds.Listener
import OsmEdge.Envoy.Rds.Route
import OsmEdge.Catalog.Backends
import OsmEdge.Lib.Ipv4
import OsmEdge.Lib.ExceptLoop

/-
  Ingress to a proxy's services under Envoy: the ingress filter chains of the inbound
  listener (`getIngressFilterChains`, `pkg/sidecar/providers/envoy/lds/ingress.go`) and the
  ingress route configuration of the RDS response (`NewResponse`, `rds/response.go`).

  Every ingress filter chain, of every service, hands its requests to the one route
  configuration `rds-ingress` (`RouteConfigName_of_mem_getIngressFilterChains`). That
  configuration is built from the ingress policies of all the proxy's services merged by
  `MergeInboundPolicies`. Each policy is for the host `*`, so they merge into one policy, one
  virtual host for `*`, whose rules are the services' rules in turn, the first service's
  first (`foldlM_addIngressPolicy_first`). Each rule is the wildcard route to its service's
  local cluster, and Envoy takes the first route that accepts a request.

  Proved:
  * `ingress_routes_to_first_service`: for every proxy whose services include one with an
    ingress policy, every request that the regex `.*` matches, arriving on the ingress filter
    chain of any of the services, is routed to the local cluster of the first service that
    has an ingress policy.
-/

namespace OsmEdge.Lds

open OsmEdge.Xds OsmEdge.Catalog OsmEdge.Service

/-- `GetCIDRRangeFromStr` (`envoy/xdsutil.go`): the address and the prefix length of an IPv4
    CIDR; `net.ParseCIDR`'s error for any other text. An accepted address has no leading
    zero, so `ip.String()` is the address as written. -/
def GetCIDRRangeFromStr (cidr : String) : Except String CidrRange :=
  match Ipv4.parseCIDR cidr.toList with
  | some (_, prefixLen) =>
    .ok { AddressPrefix := String.ofList ((GoText.split '/' cidr.toList).headD [])
          PrefixLen := UInt32.ofNat prefixLen }
  | none => .error ("invalid CIDR address: " ++ cidr)

/-- `getIngressFilterChainFromTrafficMatch`: a chain named after the traffic match, for its
    port and its source ranges (a range that does not parse is skipped), whose HTTP
    connection manager reads `rds-ingress`. The TLS settings of an `https` chain are left
    out. -/
def getIngressFilterChainFromTrafficMatch (trafficMatch : IngressTrafficMatch) : FilterChain :=
  { Name := trafficMatch.Name
    FilterChainMatch :=
      { DestinationPort := trafficMatch.Port
        SourcePrefixRanges := trafficMatch.SourceIPRanges.filterMap fun ipRange =>
          match GetCIDRRangeFromStr ipRange with
          | .ok cidr => some cidr
          | .error _ => none }
    Filters := [.HTTPConnectionManager Rds.IngressRouteConfigName] }

/-- `getIngressFilterChains`: a chain for each traffic match of the service's ingress policy;
    none on an error or without a policy. -/
def getIngressFilterChains (bc : BackendCatalog) (svc : MeshService) : List FilterChain :=
  match GetIngressTrafficPolicy bc svc with
  | .ok (some ingressPolicy) => ingressPolicy.TrafficMatches.map getIngressFilterChainFromTrafficMatch
  | _ => []

/-- Every ingress filter chain reads `rds-ingress`, whatever the service. -/
theorem RouteConfigName_of_mem_getIngressFilterChains {bc : BackendCatalog} {svc : MeshService}
    {fc : FilterChain} (h : fc ∈ getIngressFilterChains bc svc) :
    fc.RouteConfigName = Rds.IngressRouteConfigName := by
  unfold getIngressFilterChains at h
  split at h
  · obtain ⟨_, -, rfl⟩ := List.mem_map.mp h
    rfl
  · cases h

end OsmEdge.Lds

namespace OsmEdge.Rds

open OsmEdge.Xds OsmEdge.Catalog OsmEdge.Service OsmEdge.Trafficpolicy OsmEdge.Constants GoSet

section ingress

variable (bc : BackendCatalog)

/-- One iteration of the ingress loop of `NewResponse`: the route policies of the service's
    ingress policy merged into those so far; a service whose policy errs or is nil is
    skipped. A nil route policy panics, here at once, in Go when `MergeInboundPolicies` or
    `BuildIngressConfiguration` dereferences it. -/
def addIngressPolicy (ingressTrafficPolicies : List InboundTrafficPolicy) (svc : MeshService) :
    Except String (List InboundTrafficPolicy) :=
  match GetIngressTrafficPolicy bc svc with
  | .ok (some ingressPolicy) =>
    match ingressPolicy.HTTPRoutePolicies.mapM id with
    | some latest => .ok (MergeInboundPolicies ingressTrafficPolicies latest)
    | none => .error ExceptLoop.nilDereference
  | _ => .ok ingressTrafficPolicies

/-- The ingress route configuration of `NewResponse`, when some service has an ingress
    policy. -/
def ingressRouteConfiguration (it : MapOrder) (proxyServices : List MeshService) :
    Except String (Option RouteConfiguration) :=
  (proxyServices.foldlM (addIngressPolicy bc) []).map fun ingressTrafficPolicies =>
    if ingressTrafficPolicies.length > 0 then BuildIngressConfiguration it ingressTrafficPolicies
    else none

/-- A service without an ingress policy changes nothing. -/
theorem addIngressPolicy_of_none {svc : MeshService}
    (h : ∀ p, GetIngressTrafficPolicy bc svc ≠ .ok (some p)) (acc : List InboundTrafficPolicy) :
    addIngressPolicy bc acc svc = .ok acc := by
  unfold addIngressPolicy
  split
  · rename_i p hp
    exact absurd hp (h p)
  · rfl

/-- A service with an ingress policy merges its one route policy, for `*`, whose rules are
    all the wildcard route to the service's local cluster. -/
theorem addIngressPolicy_of_some {svc : MeshService} {p : IngressTrafficPolicy}
    (h : GetIngressTrafficPolicy bc svc = .ok (some p)) (acc : List InboundTrafficPolicy) :
    ∃ pol, addIngressPolicy bc acc svc = .ok (MergeInboundPolicies acc [pol]) ∧
      pol.Hostnames = ["*"] ∧ pol.Rules ≠ [] ∧ ∀ r ∈ pol.Rules, r.Route = backendRoute svc := by
  obtain ⟨-, pol, hpol, hhosts, hrules, hroutes⟩ := GetIngressTrafficPolicy_routePolicies h
  refine ⟨pol, ?_, hhosts, hrules, hroutes⟩
  simp [addIngressPolicy, h, hpol]

/-- The ingress policies merged so far are one policy for `*`, whose first route is the
    wildcard route to the local cluster of `svc₁`. -/
def FirstService (svc₁ : MeshService) (ingressTrafficPolicies : List InboundTrafficPolicy) : Prop :=
  ∃ p, ingressTrafficPolicies = [p] ∧ p.Hostnames = ["*"] ∧
    (routes p.Rules).head? = some (backendRoute svc₁)

/-- Step lemma: merging one more service keeps the first service first. -/
theorem addIngressPolicy_first {svc₁ : MeshService} {acc : List InboundTrafficPolicy}
    (hinv : FirstService svc₁ acc) (svc : MeshService) :
    ∃ acc', addIngressPolicy bc acc svc = .ok acc' ∧ FirstService svc₁ acc' := by
  obtain ⟨p, rfl, hhosts, hhead⟩ := hinv
  cases hget : GetIngressTrafficPolicy bc svc with
  | ok q =>
    cases q with
    | some q =>
      obtain ⟨pol, hadd, hpolHosts, -, -⟩ := addIngressPolicy_of_some bc hget [p]
      refine ⟨_, hadd, { p with Rules := MergeRules p.Rules pol.Rules }, ?_, hhosts, ?_⟩
      · exact mergeInboundPolicy_wildcard hhosts hpolHosts
      · -- the merged rules keep the first policy's rules in front
        obtain ⟨extra, hextra⟩ := routes_MergeRules_prefix p.Rules pol.Rules
        obtain ⟨rs, hrs⟩ := List.head?_eq_some_iff.mp hhead
        rw [hextra, hrs]
        rfl
    | none => exact ⟨_, addIngressPolicy_of_none bc (by simp [hget]) _, p, rfl, hhosts, hhead⟩
  | error e => exact ⟨_, addIngressPolicy_of_none bc (by simp [hget]) _, p, rfl, hhosts, hhead⟩

/-- Run lemma: the rest of the services keep the first service first. -/
theorem foldlM_addIngressPolicy_first {svc₁ : MeshService} (services : List MeshService)
    {acc : List InboundTrafficPolicy} (hinv : FirstService svc₁ acc) :
    ∃ acc', services.foldlM (addIngressPolicy bc) acc = .ok acc' ∧ FirstService svc₁ acc' :=
  ExceptLoop.foldlM_invariant _ (FirstService svc₁) (fun _ svc h => addIngressPolicy_first bc h svc)
    services acc hinv

/-- The first service with an ingress policy starts the merge. -/
theorem addIngressPolicy_nil_first {svc₁ : MeshService} {p : IngressTrafficPolicy}
    (h : GetIngressTrafficPolicy bc svc₁ = .ok (some p)) :
    ∃ acc, addIngressPolicy bc [] svc₁ = .ok acc ∧ FirstService svc₁ acc := by
  obtain ⟨pol, hadd, hhosts, hrules, hroutes⟩ := addIngressPolicy_of_some bc h []
  refine ⟨_, hadd, pol, rfl, hhosts, ?_⟩
  obtain ⟨r, rs, hrs⟩ := List.exists_cons_of_ne_nil hrules
  simp [routes, hrs, hroutes r (by simp [hrs])]

end ingress

/-! ## The route Envoy takes -/

section route

variable (it : MapOrder)

/-- The wildcard route of a service goes to its local cluster, alone with all the weight. -/
theorem buildWeightedCluster_backendRoute (svc : MeshService) :
    buildWeightedCluster it (backendRoute svc).WeightedClusters =
      some { Clusters := [{ Name := svc.SidecarLocalClusterName, Weight := 100 }], TotalWeight := 100 } := by
  have htotal : GoText.wrapInt64 100 = 100 := GoText.wrapInt64_of_mem (by omega) (by omega)
  have hweight : UInt32.ofInt 100 = 100 := by decide
  simp [buildWeightedCluster, backendRoute, localClusterOf, Enumerator.enum_singleton, htotal,
    hweight, ClusterWeightAcceptAll]

/-- A rule for the wildcard route gives one Envoy route, for every method. -/
theorem buildInboundRoutes_cons_backendRoute {rule : Rule} {svc : MeshService}
    (hroute : rule.Route = backendRoute svc) (rules : List Rule) :
    buildInboundRoutes it (rule :: rules) =
      applyInboundRouteConfig (buildRoute it (backendRoute svc) WildcardHTTPMethod)
        (buildInboundRBACFilterForRule it rule) :: buildInboundRoutes it rules := by
  have hsanitize : sanitizeHTTPMethods [WildcardHTTPMethod] = [WildcardHTTPMethod] := by decide
  simp [buildInboundRoutes, buildInboundRoutesForRule, hroute, backendRoute, WildCardRouteMatch,
    hsanitize]

/-- The wildcard route accepts every request whose path and method the regex `.*` matches. -/
theorem matches_buildRoute_backendRoute (fullMatch : String → String → Bool) (svc : MeshService)
    (req : Request) (hpath : fullMatch RegexMatchAll req.path = true)
    (hmethod : fullMatch RegexMatchAll req.method = true) :
    (buildRoute it (backendRoute svc) WildcardHTTPMethod).Match.matches fullMatch req = true := by
  simp [buildRoute, backendRoute, WildCardRouteMatch, getHeadersForRoute, getRegexForMethod,
    RouteMatch.matches, PathSpecifier.matches, Request.header, methodHeaderKey, hpath, hmethod]

end route

/-- For every proxy whose services include one with an ingress policy, every request the
    regex `.*` matches, on the ingress filter chain of any of the proxy's services, is routed
    to the local cluster of the first service that has an ingress policy, by every router
    that keeps the laws Envoy documents. -/
theorem ingress_routes_to_first_service (it : MapOrder) (bc : BackendCatalog)
    (pre post : List MeshService) (svc₁ : MeshService) (ingressPolicy : IngressTrafficPolicy)
    (hpre : ∀ svc ∈ pre, ∀ p, GetIngressTrafficPolicy bc svc ≠ .ok (some p))
    (h₁ : GetIngressTrafficPolicy bc svc₁ = .ok (some ingressPolicy))
    {fullMatch : String → String → Bool} {select : RouteConfiguration → String → Option VirtualHost}
    {route : RouteConfiguration → Request → Option Xds.Route}
    (hrouter : RouterLaws fullMatch select route) (req : Request)
    (hpath : fullMatch RegexMatchAll req.path = true)
    (hmethod : fullMatch RegexMatchAll req.method = true) :
    ∃ rc, ingressRouteConfiguration bc it (pre ++ svc₁ :: post) = .ok (some rc) ∧
      (∀ svc ∈ pre ++ svc₁ :: post, ∀ fc ∈ Lds.getIngressFilterChains bc svc,
        fc.RouteConfigName = rc.Name) ∧
      ∃ rt, route rc req = some rt ∧
        rt.WeightedClusters =
          some { Clusters := [{ Name := svc₁.SidecarLocalClusterName, Weight := 100 }], TotalWeight := 100 } := by
  -- the services before `svc₁` add nothing, `svc₁` starts the merge, the rest keep it first
  obtain ⟨acc₁, hacc₁, hfirst₁⟩ := addIngressPolicy_nil_first bc h₁
  obtain ⟨acc, hrest, p, rfl, hhosts, hhead⟩ := foldlM_addIngressPolicy_first bc post hfirst₁
  have hloop : (pre ++ svc₁ :: post).foldlM (addIngressPolicy bc) [] = .ok [p] := by
    rw [List.foldlM_append, ExceptLoop.foldlM_of_skip _ pre (fun svc hsvc => addIngressPolicy_of_none bc (hpre svc hsvc)) []]
    simp only [bind, Except.bind, List.foldlM_cons, hacc₁]
    exact hrest
  obtain ⟨rule, rules, hrules⟩ : ∃ rule rules, p.Rules = rule :: rules := by
    cases hr : p.Rules with
    | nil => simp [routes, hr] at hhead
    | cons rule rules => exact ⟨rule, rules, rfl⟩
  have hroute : rule.Route = backendRoute svc₁ := by simpa [routes, hrules] using hhead
  -- one virtual host for `*`, whose first route is the first service's wildcard route
  let rt := applyInboundRouteConfig (buildRoute it (backendRoute svc₁) WildcardHTTPMethod)
    (buildInboundRBACFilterForRule it rule)
  let vh : VirtualHost :=
    { buildVirtualHostStub ingressVirtualHost p.Name p.Hostnames with
      Routes := buildInboundRoutes it p.Rules }
  have hvh : vh.Routes = rt :: buildInboundRoutes it rules := by
    simp only [vh, hrules, buildInboundRoutes_cons_backendRoute it hroute, rt]
  let rc : RouteConfiguration := { Name := IngressRouteConfigName, VirtualHosts := [vh] }
  refine ⟨rc, ?_, ?_, rt, ?_, ?_⟩
  · simp [ingressRouteConfiguration, hloop, BuildIngressConfiguration, rc, vh]
  · intro svc _ fc hfc
    exact Lds.RouteConfigName_of_mem_getIngressFilterChains hfc
  · -- Envoy picks the one virtual host and its first route
    have hsel : select rc req.authority = some vh :=
      hrouter.select_single_catchAll rc vh _ rfl (by simp [vh, buildVirtualHostStub, hhosts])
    rw [hrouter.route_eq, hsel, Option.bind_some, hvh]
    exact find?_routes_of_head fullMatch (matches_buildRoute_backendRoute it fullMatch svc₁ req hpath hmethod)
  · exact buildWeightedCluster_backendRoute it svc₁


/-- A service `demo/<name>` for HTTP on one port. -/
def ingressService (name : String) (port : UInt16) : MeshService :=
  { Namespace := "demo", Name := name, Port := port, TargetPort := port, Protocol := "http" }

/-- A catalog where every service has an IngressBackend for its own port from `10.0.0.0/8`. -/
def ingressDemoCatalog : BackendCatalog :=
  { EnableAccessControlPolicy := false, EnableIngressBackendPolicy := true
    GetAccessControlPolicy := fun _ => none
    GetIngressBackendPolicy := fun svc =>
      some { Name := svc.Name, Namespace := svc.Namespace
             Backends := [{ Name := svc.Name, Port := { Number := svc.TargetPort.toNat, Protocol := "http" }
                            TLS := none }]
             Sources := [{ Kind := KindIPRange, Name := "10.0.0.0/8", Namespace := "" }] }
    listEndpointsForService := fun _ => [], GetExportedRule := fun _ => .ok none
    GetIngressControllerServices := [] }

/-- A request for `s2`. -/
def ingressDemoRequest : Request :=
  { authority := "s2.demo.svc.cluster.local", path := "/", method := "GET", headers := [] }

/-- A regex matcher that knows `.*` and otherwise compares the texts. -/
def matchAllOrEqual (re s : String) : Bool := re == RegexMatchAll || re == s

/-- The proxy of `demo/s1` and `demo/s2`: `s2` has an ingress filter chain, and a request for
    `s2` on it goes to the local cluster of `s1`. -/
theorem ingress_routes_s2_to_s1 :
    Lds.getIngressFilterChains ingressDemoCatalog (ingressService "s2" 9090) ≠ [] ∧
    (ingressService "s1" 8080).SidecarLocalClusterName ≠ (ingressService "s2" 9090).SidecarLocalClusterName ∧
    ∃ rc, ingressRouteConfiguration ingressDemoCatalog ascendingOrder
        ([] ++ ingressService "s1" 8080 :: [ingressService "s2" 9090]) = .ok (some rc) ∧
      (∀ svc ∈ [] ++ ingressService "s1" 8080 :: [ingressService "s2" 9090],
        ∀ fc ∈ Lds.getIngressFilterChains ingressDemoCatalog svc, fc.RouteConfigName = rc.Name) ∧
      ∃ rt, rc.route matchAllOrEqual ingressDemoRequest = some rt ∧
        rt.WeightedClusters = some { Clusters := [{ Name := (ingressService "s1" 8080).SidecarLocalClusterName
                                                    Weight := 100 }]
                                     TotalWeight := 100 } :=
  ⟨by decide +kernel, by decide,
    ingress_routes_to_first_service ascendingOrder ingressDemoCatalog [] [ingressService "s2" 9090]
      (ingressService "s1" 8080) _ (by simp) rfl (routerLaws matchAllOrEqual) ingressDemoRequest
      (by decide) (by decide)⟩

end OsmEdge.Rds
