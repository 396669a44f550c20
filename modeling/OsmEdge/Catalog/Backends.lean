import OsmEdge.Catalog.Inbound
import OsmEdge.Lib.GoSet
import OsmEdge.Lib.Ipv4

/-
  The policies the catalog builds for one mesh service from an AccessControl, an
  IngressBackend or the rule that exports the service to other clusters
  (`pkg/catalog/access_control.go`, `ingress.go`, `multi_cluster.go`).

  Each backend of a policy that names the service and its target port gives a traffic match
  with the source IP ranges of the policy; the AuthenticatedPrincipal sources fill one set of
  principals shared by all backends. The route rules carry a pointer to that one set, so every
  rule allows the set as it stands after the last backend: the model builds the rules after
  the loop. The route policy is the wildcard route to the service's local cluster.

  The three builders differ where the policy is HTTP:

  * `GetIngressTrafficPolicy` makes a rule for every backend, so its route policy is always
    there and has rules (`GetIngressTrafficPolicy_routePolicies`);
  * `GetAccessControlTrafficPolicy` makes a rule only for a backend whose protocol is `http`
    or `grpc`, and lists a `nil` route policy when there is none
    (`GetAccessControlTrafficPolicy_routePolicies`);
  * `GetExportTrafficPolicy` does the same with the service's own protocol
    (`GetExportTrafficPolicy_routePolicies`).

  The traffic match names these builders give start with `acl_`, `ingress_` or `exp_`, then
  the namespaced service, the port and the protocol, each after a `_`.

  Left out: the status the builders write back to the policy, the rate limit of the
  upstream traffic setting, and the IPv6 ranges `net.ParseCIDR` accepts (an `IPRange` source
  is checked with `Ipv4.parseCIDR`).
-/

namespace OsmEdge.Trafficpolicy

open OsmEdge.Constants

/-- `WildCardRouteMatch`. -/
def WildCardRouteMatch : HTTPRouteMatch :=
  { Path := RegexMatchAll, PathMatchType := .PathMatchRegex, Methods := [WildcardHTTPMethod],
    Headers := ∅ }

end OsmEdge.Trafficpolicy

namespace OsmEdge.Catalog

open OsmEdge.Identity OsmEdge.Trafficpolicy OsmEdge.Service OsmEdge.Constants GoText

/-! ## The policy resources -/

/-- `PortSpec`. -/
structure PortSpec where
  Number : Int
  Protocol : String
  deriving DecidableEq, Repr

/-- `TLSSpec`. -/
structure TLSSpec where
  SkipClientCertValidation : Bool
  SNIHosts : List String
  deriving DecidableEq, Repr

/-- `BackendSpec`, and `AccessControlBackendSpec`, which has the same fields. -/
structure BackendSpec where
  Name : String
  Port : PortSpec
  TLS : Option TLSSpec
  deriving DecidableEq, Repr

/-- `IngressSourceSpec`, and `AccessControlSourceSpec`, which has the same fields. -/
structure SourceSpec where
  Kind : String
  Name : String
  Namespace : String
  deriving DecidableEq, Repr

/-- `KindService`. -/
def KindService : String := "Service"
/-- `KindAuthenticatedPrincipal`. -/
def KindAuthenticatedPrincipal : String := "AuthenticatedPrincipal"
/-- `KindIPRange`. -/
def KindIPRange : String := "IPRange"

/-- `AccessControl`, in the fields the catalog reads (`Matches` is not read). -/
structure AccessControl where
  Name : String
  Namespace : String
  Backends : List BackendSpec
  Sources : List SourceSpec

/-- `IngressBackend`, in the fields the catalog reads. -/
structure IngressBackend where
  Name : String
  Namespace : String
  Backends : List BackendSpec
  Sources : List SourceSpec

/-- `ServiceExportRule`: its `int32` port (`Path` and `PathType` are not read). -/
structure ServiceExportRule where
  PortNumber : Int

/-- What the builders ask of the catalog's controllers and of the MeshConfig: the feature
    flags, the policy of a service, the endpoint addresses of a service (`ep.IP.String()`),
    the exported rule of a service and the ingress controller services. -/
structure BackendCatalog where
  EnableAccessControlPolicy : Bool
  EnableIngressBackendPolicy : Bool
  GetAccessControlPolicy : MeshService → Option AccessControl
  GetIngressBackendPolicy : MeshService → Option IngressBackend
  listEndpointsForService : MeshService → List String
  GetExportedRule : MeshService → Except String (Option ServiceExportRule)
  GetIngressControllerServices : List MeshService

/-! ## The policies built -/

/-- `AccessControlTrafficMatch`. -/
structure AccessControlTrafficMatch where
  Name : String
  Port : UInt32
  Protocol : String
  SourceIPRanges : List String
  TLS : Option TLSSpec
  deriving DecidableEq, Repr

/-- `IngressTrafficMatch`. -/
structure IngressTrafficMatch where
  Name : String
  Port : UInt32
  Protocol : String
  SourceIPRanges : List String
  TLS : Option TLSSpec
  ServerNames : List String
  SkipClientCertValidation : Bool
  deriving DecidableEq, Repr

/-- `ServiceExportTrafficMatch`. -/
structure ServiceExportTrafficMatch where
  Name : String
  Port : UInt32
  Protocol : String
  SourceIPRanges : List String
  TLS : Option TLSSpec
  deriving DecidableEq, Repr

/-- `AccessControlTrafficPolicy`; a `nil` route policy is `none`. -/
structure AccessControlTrafficPolicy where
  TrafficMatches : List AccessControlTrafficMatch
  HTTPRoutePolicies : List (Option InboundTrafficPolicy)

/-- `IngressTrafficPolicy`. -/
structure IngressTrafficPolicy where
  TrafficMatches : List IngressTrafficMatch
  HTTPRoutePolicies : List (Option InboundTrafficPolicy)

/-- `ServiceExportTrafficPolicy`. -/
structure ServiceExportTrafficPolicy where
  TrafficMatches : List ServiceExportTrafficMatch
  HTTPRoutePolicies : List (Option InboundTrafficPolicy)

/-! ## The sources of a backend -/

/-- `singeIPPrefixLen`. -/
def singeIPPrefixLen : String := "/32"

/-- The state of the sources loop of one backend: the ranges so far, the endpoint ranges
    already added (`sourceIPSet`), and the principal set all backends share. -/
structure SourcesState where
  sourceIPRanges : List String
  sourceIPSet : List String
  sourcePrincipals : Finset String

/-- `if sourceIPSet.Add(sourceCIDR) { sourceIPRanges = append(sourceIPRanges, sourceCIDR) }`. -/
def addEndpointRange (st : SourcesState) (sourceCIDR : String) : SourcesState :=
  if sourceCIDR ∈ st.sourceIPSet then st
  else { st with sourceIPRanges := st.sourceIPRanges ++ [sourceCIDR],
                 sourceIPSet := st.sourceIPSet ++ [sourceCIDR] }

section sources

variable (bc : BackendCatalog) (policyKind policyNs policyName : String) (backend : BackendSpec)

/-- One iteration of the sources loop, shared by `GetAccessControlTrafficPolicy` and
    `GetIngressTrafficPolicy`; `policyKind`, `policyNs` and `policyName` name the policy in the
    error. A source of another kind is passed over. -/
def addSource (st : SourcesState) (source : SourceSpec) : Except String SourcesState :=
  if source.Kind = KindService then
    let endpoints := bc.listEndpointsForService
      { Namespace := source.Namespace, Name := source.Name, Port := 0, TargetPort := 0, Protocol := "" }
    if endpoints.length = 0 then
      .error ("Could not list endpoints of the source service " ++ source.Namespace ++ "/" ++
        source.Name ++ " specified in the " ++ policyKind ++ " " ++ policyNs ++ "/" ++ policyName)
    else .ok (endpoints.foldl (fun st ep => addEndpointRange st (ep ++ singeIPPrefixLen)) st)
  else if source.Kind = KindIPRange then
    -- an invalid range is logged and skipped
    if (Ipv4.parseCIDR source.Name.toList).isSome then
      .ok { st with sourceIPRanges := st.sourceIPRanges ++ [source.Name] }
    else .ok st
  else if source.Kind = KindAuthenticatedPrincipal then
    match backend.TLS with
    | some tls =>
      if tls.SkipClientCertValidation then
        .ok { st with sourcePrincipals := insert WildcardServiceIdentity st.sourcePrincipals }
      else .ok { st with sourcePrincipals := insert source.Name st.sourcePrincipals }
    | none => .ok { st with sourcePrincipals := insert source.Name st.sourcePrincipals }
  else .ok st

/-- The sources loop. -/
def addSources : SourcesState → List SourceSpec → Except String SourcesState
  | st, [] => .ok st
  | st, source :: sources =>
    match addSource bc policyKind policyNs policyName backend st source with
    | .ok st => addSources st sources
    | .error e => .error e

end sources

/-! ## The backends of a policy -/

/-- The state of the backends loop: the traffic matches, the routes of the rules made so far
    (each rule allows the shared principal set, filled in after the loop), and that set. -/
structure BackendsState (TM : Type) where
  trafficMatches : List TM
  routes : List RouteWeightedClusters
  sourcePrincipals : Finset String

/-- The route of every rule: the wildcard route to the service's local cluster. -/
def backendRoute (svc : MeshService) : RouteWeightedClusters :=
  { HTTPRouteMatch := WildCardRouteMatch, WeightedClusters := {localClusterOf svc} }

/-- The backends loop shared by `GetAccessControlTrafficPolicy` and `GetIngressTrafficPolicy`.
    `mkMatch` builds a backend's traffic match from its source ranges; `makesRule` says
    whether the backend gets a route rule. -/
def addBackends {TM : Type} (bc : BackendCatalog) (svc : MeshService)
    (policyKind policyNs policyName : String) (sources : List SourceSpec)
    (mkMatch : BackendSpec → List String → TM) (makesRule : BackendSpec → Bool) :
    BackendsState TM → List BackendSpec → Except String (BackendsState TM)
  | st, [] => .ok st
  | st, backend :: backends =>
    if backend.Name ≠ svc.Name ∨ backend.Port.Number ≠ (svc.TargetPort.toNat : Int) then
      addBackends bc svc policyKind policyNs policyName sources mkMatch makesRule st backends
    else
      match addSources bc policyKind policyNs policyName backend ⟨[], [], st.sourcePrincipals⟩ sources with
      | .error e => .error e
      | .ok src =>
        -- an HTTP backend cannot verify the downstream's identity
        let principals := if equalFold backend.Port.Protocol ProtocolHTTP
          then insert WildcardPrincipal src.sourcePrincipals else src.sourcePrincipals
        let st' : BackendsState TM :=
          { trafficMatches := st.trafficMatches ++ [mkMatch backend src.sourceIPRanges]
            routes := if makesRule backend then st.routes ++ [backendRoute svc] else st.routes
            sourcePrincipals := principals }
        addBackends bc svc policyKind policyNs policyName sources mkMatch makesRule st' backends

/-- The rules of the route policy: every route allows the final principal set. -/
def BackendsState.rules {TM : Type} (st : BackendsState TM) : List Rule :=
  st.routes.map fun r => { Route := r, AllowedPrincipals := st.sourcePrincipals }

/-- Whether a protocol, lowered, is `http` or `grpc`: the protocols the catalog makes an
    HTTP route for. -/
def isHTTPRouted (protocol : String) : Bool :=
  toLower protocol = ProtocolHTTP || toLower protocol = ProtocolGRPC

/-- `GetAccessControlTrafficPolicy`. -/
def GetAccessControlTrafficPolicy (bc : BackendCatalog) (svc : MeshService) :
    Except String (Option AccessControlTrafficPolicy) :=
  if !bc.EnableAccessControlPolicy then .ok none
  else
    match bc.GetAccessControlPolicy svc with
    | none => .ok none
    | some aclPolicy =>
      let mkMatch := fun (backend : BackendSpec) (sourceIPRanges : List String) =>
        ({ Name := AccessControlTrafficMatchName svc.Name svc.Namespace
              (UInt16.ofInt backend.Port.Number) backend.Port.Protocol
           Port := UInt32.ofInt backend.Port.Number
           Protocol := backend.Port.Protocol
           SourceIPRanges := sourceIPRanges
           TLS := backend.TLS } : AccessControlTrafficMatch)
      match addBackends bc svc "AccessControl" aclPolicy.Namespace aclPolicy.Name aclPolicy.Sources
          mkMatch (fun backend => isHTTPRouted backend.Port.Protocol) ⟨[], [], ∅⟩ aclPolicy.Backends with
      | .error e => .error e
      | .ok st =>
        if st.trafficMatches.length = 0 then .ok none
        else
          -- `trafficRoutingRules` stays `nil` when no backend is HTTP
          let httpRoutePolicy : Option InboundTrafficPolicy :=
            if st.routes = [] then none
            else some { Name := toString svc ++ "_from_" ++ aclPolicy.Name, Hostnames := ["*"],
                        Rules := st.rules }
          .ok (some { TrafficMatches := st.trafficMatches, HTTPRoutePolicies := [httpRoutePolicy] })

/-- `GetIngressTrafficPolicy`. -/
def GetIngressTrafficPolicy (bc : BackendCatalog) (svc : MeshService) :
    Except String (Option IngressTrafficPolicy) :=
  if !bc.EnableIngressBackendPolicy then .ok none
  else
    match bc.GetIngressBackendPolicy svc with
    | none => .ok none
    | some ingressBackendPolicy =>
      let mkMatch := fun (backend : BackendSpec) (sourceIPRanges : List String) =>
        ({ Name := IngressTrafficMatchName svc.Name svc.Namespace
              (UInt16.ofInt backend.Port.Number) backend.Port.Protocol
           Port := UInt32.ofInt backend.Port.Number
           Protocol := backend.Port.Protocol
           SourceIPRanges := sourceIPRanges
           TLS := backend.TLS
           ServerNames := (backend.TLS.map (·.SNIHosts)).getD []
           SkipClientCertValidation := (backend.TLS.map (·.SkipClientCertValidation)).getD false } :
          IngressTrafficMatch)
      match addBackends bc svc "IngressBackend" ingressBackendPolicy.Namespace ingressBackendPolicy.Name
          ingressBackendPolicy.Sources mkMatch (fun _ => true) ⟨[], [], ∅⟩ ingressBackendPolicy.Backends with
      | .error e => .error e
      | .ok st =>
        if st.trafficMatches.length = 0 then .ok none
        else
          let httpRoutePolicy : InboundTrafficPolicy :=
            { Name := toString svc ++ "_from_" ++ ingressBackendPolicy.Name, Hostnames := ["*"],
              Rules := st.rules }
          .ok (some { TrafficMatches := st.trafficMatches, HTTPRoutePolicies := [some httpRoutePolicy] })

/-- `GetExportTrafficPolicy`: the ingress controllers' endpoints are the source ranges, and
    the route policy follows the service's own protocol. -/
def GetExportTrafficPolicy (bc : BackendCatalog) (svc : MeshService) :
    Except String (Option ServiceExportTrafficPolicy) :=
  match bc.GetExportedRule svc with
  | .error e => .error e
  | .ok none => .ok none
  | .ok (some exportedRule) =>
    let trafficMatch : ServiceExportTrafficMatch :=
      { Name := ExportedServiceTrafficMatchName svc.Name svc.Namespace
          (UInt16.ofInt exportedRule.PortNumber) svc.Protocol
        Port := UInt32.ofInt exportedRule.PortNumber
        Protocol := svc.Protocol
        SourceIPRanges := GoSet.collectNew
          ((bc.GetIngressControllerServices.flatMap bc.listEndpointsForService).map
            (· ++ singeIPPrefixLen))
        TLS := none }
    let sourcePrincipals : Finset String :=
      if equalFold svc.Protocol ProtocolHTTP then {WildcardPrincipal} else ∅
    let httpRoutePolicy : Option InboundTrafficPolicy :=
      if isHTTPRouted svc.Protocol then
        some { Name := toString svc ++ "_from_IngressController", Hostnames := ["*"],
               Rules := [{ Route := backendRoute svc, AllowedPrincipals := sourcePrincipals }] }
      else none
    .ok (some { TrafficMatches := [trafficMatch], HTTPRoutePolicies := [httpRoutePolicy] })

/-! ## What the builders return -/

/-- A backend that names the service and its target port. -/
def Selects (svc : MeshService) (backend : BackendSpec) : Bool :=
  backend.Name = svc.Name && backend.Port.Number = (svc.TargetPort.toNat : Int)

section loop

variable {TM κ : Type} (bc : BackendCatalog) (svc : MeshService)
  (policyKind policyNs policyName : String) (sources : List SourceSpec)
  (mkMatch : BackendSpec → List String → TM) (makesRule : BackendSpec → Bool)

/-- A run of the backends loop adds a traffic match for each backend that selects the
    service, in order (seen through any `key` that does not read the source ranges), and a
    route for each of them that makes a rule. -/
theorem addBackends_ok (key : TM → κ) (keyOf : BackendSpec → κ)
    (hkey : ∀ b r, key (mkMatch b r) = keyOf b) :
    ∀ {backends : List BackendSpec} {st st' : BackendsState TM},
      addBackends bc svc policyKind policyNs policyName sources mkMatch makesRule st backends =
        .ok st' →
      st'.trafficMatches.map key =
          st.trafficMatches.map key ++ (backends.filter (Selects svc)).map keyOf ∧
        st'.routes = st.routes ++
          (backends.filter fun b => Selects svc b && makesRule b).map fun _ => backendRoute svc
  | [], st, st', h => by
    cases h
    simp
  | b :: bs, st, st', h => by
    unfold addBackends at h
    by_cases hs : Selects svc b
    · -- the backend selects the service: one traffic match, and a route if it makes a rule
      have hsel : ¬ (b.Name ≠ svc.Name ∨ b.Port.Number ≠ (svc.TargetPort.toNat : Int)) := by
        simpa [Selects] using hs
      rw [if_neg hsel] at h
      cases hsrc : addSources bc policyKind policyNs policyName b ⟨[], [], st.sourcePrincipals⟩ sources with
      | error e => rw [hsrc] at h; cases h
      | ok src =>
        rw [hsrc] at h
        obtain ⟨hms, hrs⟩ := addBackends_ok key keyOf hkey h
        refine ⟨?_, ?_⟩
        · rw [hms]
          simp [hs, hkey]
        · rw [hrs]
          by_cases hr : makesRule b <;> simp [hs, hr]
    · have hsel : b.Name ≠ svc.Name ∨ b.Port.Number ≠ (svc.TargetPort.toNat : Int) := by
        simp only [Selects, Bool.and_eq_true, decide_eq_true_eq, not_and_or] at hs
        exact hs
      rw [if_pos hsel] at h
      obtain ⟨hms, hrs⟩ := addBackends_ok key keyOf hkey h
      exact ⟨by simp [hms, hs], by simp [hrs, hs]⟩

end loop

/-- What `GetAccessControlTrafficPolicy` returns: a traffic match for every backend that
    selects the service, with that backend's protocol and a name of four `_`-separated
    pieces, and one route policy, `nil` when none of those backends is `http` or `grpc`, and
    otherwise the wildcard host with rules. -/
theorem GetAccessControlTrafficPolicy_routePolicies {bc : BackendCatalog} {svc : MeshService}
    {p : AccessControlTrafficPolicy} (h : GetAccessControlTrafficPolicy bc svc = .ok (some p)) :
    ∃ aclPolicy, bc.GetAccessControlPolicy svc = some aclPolicy ∧
      p.TrafficMatches.map (fun m => (m.Name, m.Protocol)) =
        (aclPolicy.Backends.filter (Selects svc)).map (fun b =>
          (AccessControlTrafficMatchName svc.Name svc.Namespace (UInt16.ofInt b.Port.Number)
            b.Port.Protocol, b.Port.Protocol)) ∧
      p.TrafficMatches ≠ [] ∧
      ((p.HTTPRoutePolicies = [none] ∧
          ∀ b ∈ aclPolicy.Backends, Selects svc b → isHTTPRouted b.Port.Protocol = false) ∨
        (∃ pol, p.HTTPRoutePolicies = [some pol] ∧ pol.Hostnames = ["*"] ∧ pol.Rules ≠ []) ∧
          ∃ b ∈ aclPolicy.Backends, Selects svc b ∧ isHTTPRouted b.Port.Protocol) := by
  unfold GetAccessControlTrafficPolicy at h
  split_ifs at h with hen
  · cases h
  cases hacl : bc.GetAccessControlPolicy svc with
  | none => rw [hacl] at h; cases h
  | some aclPolicy =>
    rw [hacl] at h
    simp only at h
    split at h
    · cases h
    · rename_i st hst
      obtain ⟨hms, hrs⟩ := addBackends_ok bc svc _ _ _ _ _ _
        (fun m : AccessControlTrafficMatch => (m.Name, m.Protocol))
        (fun b => (AccessControlTrafficMatchName svc.Name svc.Namespace (UInt16.ofInt b.Port.Number)
          b.Port.Protocol, b.Port.Protocol)) (by intros; rfl) hst
      simp only [List.map_nil, List.nil_append] at hms hrs
      split_ifs at h with hlen hroutes
      · cases h
      · cases h
        refine ⟨aclPolicy, rfl, hms, by simpa [← List.length_eq_zero_iff] using hlen, Or.inl ⟨rfl, ?_⟩⟩
        -- no route was made, so no selecting backend is HTTP
        intro b hb hsel
        rw [hroutes, eq_comm, List.map_eq_nil_iff, List.filter_eq_nil_iff] at hrs
        simpa [hsel] using hrs b hb
      · cases h
        refine ⟨aclPolicy, rfl, hms, by simpa [← List.length_eq_zero_iff] using hlen,
          Or.inr ⟨⟨_, rfl, rfl, ?_⟩, ?_⟩⟩
        · simpa [BackendsState.rules] using hroutes
        · -- a route was made, by a selecting HTTP backend
          rw [hrs] at hroutes
          simpa using hroutes

/-- What `GetIngressTrafficPolicy` returns: traffic match names of four `_`-separated
    pieces, and one route policy, for the wildcard host and with rules, each on the wildcard
    route to the service's local cluster. -/
theorem GetIngressTrafficPolicy_routePolicies {bc : BackendCatalog} {svc : MeshService}
    {p : IngressTrafficPolicy} (h : GetIngressTrafficPolicy bc svc = .ok (some p)) :
    (∀ m ∈ p.TrafficMatches, 3 < (split '_' m.Name.toList).length) ∧
      ∃ pol, p.HTTPRoutePolicies = [some pol] ∧ pol.Hostnames = ["*"] ∧ pol.Rules ≠ [] ∧
        ∀ r ∈ pol.Rules, r.Route = backendRoute svc := by
  unfold GetIngressTrafficPolicy at h
  split_ifs at h with hen
  · cases h
  cases hib : bc.GetIngressBackendPolicy svc with
  | none => rw [hib] at h; cases h
  | some ib =>
    rw [hib] at h
    simp only at h
    split at h
    · cases h
    · rename_i st hst
      obtain ⟨hms, hrs⟩ := addBackends_ok bc svc _ _ _ _ _ _
        (fun m : IngressTrafficMatch => m.Name)
        (fun b => IngressTrafficMatchName svc.Name svc.Namespace (UInt16.ofInt b.Port.Number)
          b.Port.Protocol) (by intros; rfl) hst
      simp only [List.map_nil, List.nil_append, Bool.and_true] at hms hrs
      split_ifs at h with hlen
      · cases h
      · cases h
        refine ⟨fun m hm => ?_, _, rfl, rfl, ?_, ?_⟩
        · -- every name is an ingress traffic match name
          obtain ⟨b, -, hb⟩ := List.mem_map.mp (hms ▸ List.mem_map_of_mem hm)
          have := three_lt_length_split_name "ingress" (svc.Namespace ++ "/" ++ svc.Name)
            (toString (UInt16.ofInt b.Port.Number)) b.Port.Protocol
          simpa [← hb, IngressTrafficMatchName, String.toList_append] using this
        · -- each selecting backend made a route, and there is one since there is a match
          have hsel : ib.Backends.filter (Selects svc) ≠ [] := by
            intro hnil
            rw [hnil, List.map_nil, List.map_eq_nil_iff] at hms
            exact hlen (by rw [hms]; rfl)
          simpa [BackendsState.rules, hrs] using hsel
        · -- every route made is the backend route
          intro r hr
          obtain ⟨route, hroute, rfl⟩ := List.mem_map.mp hr
          rw [hrs] at hroute
          obtain ⟨_, -, rfl⟩ := List.mem_map.mp hroute
          rfl

/-- What `GetExportTrafficPolicy` returns for an exported service: one traffic match, with
    the service's protocol and a name of four `_`-separated pieces, and one route policy,
    `nil` unless the service's protocol is `http` or `grpc`. -/
theorem GetExportTrafficPolicy_routePolicies {bc : BackendCatalog} {svc : MeshService}
    {p : ServiceExportTrafficPolicy} (h : GetExportTrafficPolicy bc svc = .ok (some p)) :
    ∃ m, p.TrafficMatches = [m] ∧ m.Protocol = svc.Protocol ∧
      3 < (split '_' m.Name.toList).length ∧
      ((p.HTTPRoutePolicies = [none] ∧ isHTTPRouted svc.Protocol = false) ∨
        (∃ pol, p.HTTPRoutePolicies = [some pol] ∧ pol.Hostnames = ["*"] ∧ pol.Rules ≠ []) ∧
          isHTTPRouted svc.Protocol = true) := by
  unfold GetExportTrafficPolicy at h
  split at h
  · cases h
  · cases h
  · rename_i exportedRule _
    cases h
    have hname := three_lt_length_split_name "exp" (svc.Namespace ++ "/" ++ svc.Name)
      (toString (UInt16.ofInt exportedRule.PortNumber)) svc.Protocol
    refine ⟨_, rfl, rfl, by simpa [ExportedServiceTrafficMatchName, String.toList_append] using hname, ?_⟩
    by_cases hr : isHTTPRouted svc.Protocol
    · exact Or.inr ⟨⟨_, by rw [if_pos hr], rfl, by simp⟩, hr⟩
    · exact Or.inl ⟨by simp [hr], by simpa using hr⟩

end OsmEdge.Catalog
