import OsmEdge.Pipy.Conf
import OsmEdge.Catalog.Backends
import OsmEdge.Lib.ExceptLoop

/-
  The generators that add the AccessControl, IngressBackend and exported-service policies of
  a proxy's services to its Pipy configuration (`pkg/sidecar/providers/pipy/repo/util.go`).

  The three are one function on the fields their traffic matches share
  (`generateBackendRoutePolicy`); they differ only in the rate limits they copy, which the
  model leaves out. For each traffic match the generator reads every route policy of an
  HTTP-like protocol (`http`, `https` or `grpc`), and so panics on a `nil` policy, on a
  policy with rules and an empty host name, or on a traffic match name with fewer than four
  `_`-separated pieces; it panics on nothing else (`generateBackendRoutePolicy_error_iff`).

  Against the catalog this gives: the AccessControl generator panics exactly when the
  AccessControl selects the service only through backends that are not `http` or `grpc` and
  one of them is `https` (`acl_generator_panics_iff`); the export generator exactly when the
  service's protocol is `https`; the ingress generator never.

  The principals a traffic match's route rules allow are collected in the order the Go set
  hands them out (`Rds.MapOrder`), and become the `AuthenticatedPrincipals` of the security
  spec of each new source range.
-/

namespace OsmEdge.Pipy

open OsmEdge.Trafficpolicy OsmEdge.Catalog OsmEdge.Service OsmEdge.Constants GoText ExceptLoop

/-! ## Match rules -/

/-- `matchType`. -/
def matchType : PathMatchType → URIMatchType
  | .PathMatchExact => .PathMatchExact
  | .PathMatchPrefix => .PathMatchPrefix
  | .PathMatchRegex => .PathMatchRegex

/-- The match rule the generators build for a route (`httpMatch`): the path, its type, the
    headers, and the methods added one by one, `*` for none. -/
def httpMatchOf (route : RouteWeightedClusters) : HTTPMatchRule :=
  let m := route.HTTPRouteMatch
  let httpMatch : HTTPMatchRule :=
    { Path := if m.Path.length = 0 then RegexMatchAll else m.Path
      MatchType := matchType m.PathMatchType
      Headers := m.Headers
      Methods := []
      allowedAnyService := false
      allowedAnyMethod := false }
  (if m.Methods.length = 0 then ["*"] else m.Methods).foldl HTTPMatchRule.addMethodMatch httpMatch

section generators

variable (it : Rds.MapOrder)

/-- The weighted clusters of a route, added in set order. -/
def addWeightedClusters (weightedClusters : Finset WeightedCluster) (r : InboundHTTPRouteRule) :
    InboundHTTPRouteRule :=
  (it.clusters.enum weightedClusters).foldl
    (fun r wc => r.addWeightedCluster wc.ClusterName (UInt32.ofInt wc.Weight)) r

/-! ## The backend generators -/

/-- The start of the rules loop of every inbound generator: the route rule of a route
    (`newHTTPServiceRouteRule` on its match rule), with the route's clusters if it is new,
    and its index. -/
def newRouteRule (hsrrs : InboundHTTPRouteRules) (route : RouteWeightedClusters) :
    InboundHTTPRouteRules × Nat :=
  let (hsrrs, i, duplicate) := hsrrs.newHTTPServiceRouteRule (httpMatchOf route)
  (if duplicate then hsrrs else hsrrs.modifyRule i (addWeightedClusters it route.WeightedClusters), i)

theorem httpMatchOf_allowedAnyService (route : RouteWeightedClusters) :
    (httpMatchOf route).allowedAnyService = false :=
  foldl_keeps HTTPMatchRule.allowedAnyService HTTPMatchRule.addMethodMatch (fun _ _ => rfl) _ _

theorem addWeightedClusters_HTTPMatchRule (weightedClusters : Finset WeightedCluster)
    (r : InboundHTTPRouteRule) :
    (addWeightedClusters it weightedClusters r).HTTPMatchRule = r.HTTPMatchRule := by
  -- adding a cluster writes the target clusters only
  unfold addWeightedClusters
  apply foldl_keeps
  intro _ _
  rfl

theorem addWeightedClusters_AllowedServices (weightedClusters : Finset WeightedCluster)
    (r : InboundHTTPRouteRule) :
    (addWeightedClusters it weightedClusters r).AllowedServices = r.AllowedServices := by
  -- adding a cluster writes the target clusters only
  unfold addWeightedClusters
  apply foldl_keeps
  intro _ _
  rfl

/-- A route whose match rule is new gets a new last rule with its clusters. -/
theorem newRouteRule_of_new {hsrrs : InboundHTTPRouteRules} {route : RouteWeightedClusters}
    (hnew : ∀ r ∈ hsrrs.RouteRules, r.HTTPMatchRule ≠ httpMatchOf route) :
    newRouteRule it hsrrs route =
      ({ hsrrs with RouteRules := hsrrs.RouteRules ++
          [addWeightedClusters it route.WeightedClusters ⟨httpMatchOf route, ∅, []⟩] },
        hsrrs.RouteRules.length) := by
  simp [newRouteRule, InboundHTTPRouteRules.newHTTPServiceRouteRule_of_new hnew,
    InboundHTTPRouteRules.modifyRule, modify_length_append]

/-- One iteration of the rules loop of the backend generators: a rule with a path gets a
    route rule; its principals are collected. -/
def addBackendRule (acc : InboundHTTPRouteRules × List String) (rule : Rule) :
    InboundHTTPRouteRules × List String :=
  if rule.Route.HTTPRouteMatch.Path.length = 0 then acc
  else ((newRouteRule it acc.1 rule.Route).1, acc.2 ++ it.principals.enum rule.AllowedPrincipals)

/-- One iteration of the host names loop: the host name is the rule name; the route rules of
    that name get the plugins of the traffic match and the policy's rules. -/
def addBackendHostname (pipyConf : PipyConf) (name : String) (rules : List Rule)
    (acc : InboundTrafficMatch × List String) (hostname : String) :
    Except String (InboundTrafficMatch × List String) :=
  let tm := acc.1.addHTTPHostPort2Service hostname hostname
  match tm.newHTTPServiceRouteRules hostname with
  | none => .error errNilDereference
  | some hsrrs =>
    match pipyConf.getTrafficMatchPluginConfigs name with
    | .error e => .error e
    | .ok plugins =>
      let (hsrrs, principals) := rules.foldl (addBackendRule it) ({ hsrrs with Plugins := plugins }, acc.2)
      .ok (tm.setRouteRules hostname hsrrs, principals)

/-- One iteration of the route policies loop: `len(httpRouteConfig.Rules)` dereferences the
    policy. -/
def addBackendPolicy (pipyConf : PipyConf) (name : String) (acc : InboundTrafficMatch × List String)
    (httpRouteConfig : Option Trafficpolicy.InboundTrafficPolicy) :
    Except String (InboundTrafficMatch × List String) :=
  match httpRouteConfig with
  | none => .error errNilDereference
  | some p =>
    if p.Rules.length = 0 then .ok acc
    else p.Hostnames.foldlM (addBackendHostname it pipyConf name p.Rules) acc

/-- The fields of `AccessControlTrafficMatch`, `IngressTrafficMatch` and
    `ServiceExportTrafficMatch` the generators read. -/
structure RouteTrafficMatch where
  Name : String
  Port : UInt32
  Protocol : String
  SourceIPRanges : List String
  TLS : Option TLSSpec

/-- Whether a lowered protocol gets HTTP routes in Pipy: `http`, `https` or `grpc`. -/
def isHTTPProtocol (protocol : String) : Bool :=
  protocol = ProtocolHTTP || protocol = ProtocolHTTPS || protocol = ProtocolGRPC

/-- One iteration of the traffic matches loop. The source ranges get a security spec when
    the traffic match has TLS; the Go code sets the spec's principals through its pointer
    after the route loop, so the model adds the ranges after it. -/
def addBackendTrafficMatch (pipyConf : PipyConf) (policies : List (Option Trafficpolicy.InboundTrafficPolicy))
    (itp : InboundTrafficPolicy) (m : RouteTrafficMatch) : Except String InboundTrafficPolicy :=
  let port := m.Port.toUInt16
  let tm := match itp.getTrafficMatch port with
    | some tm => tm
    | none => ((itp.newTrafficMatch port).setProtocol (toLower m.Protocol)).setPort port
  let addRanges := fun (tm : InboundTrafficMatch) (principals : List String) =>
    let securitySpec := m.TLS.map fun tls =>
      ({ MTLS := true, SkipClientCertValidation := tls.SkipClientCertValidation,
         AuthenticatedPrincipals := principals } : SourceSecuritySpec)
    m.SourceIPRanges.foldl (fun tm ipRange => tm.addSourceIPRange ipRange securitySpec) tm
  if !isHTTPProtocol (toLower m.Protocol) then .ok (itp.setTrafficMatch port (addRanges tm []))
  else
    match policies.foldlM (addBackendPolicy it pipyConf m.Name) (tm, []) with
    | .error e => .error e
    | .ok (tm, principals) => .ok (itp.setTrafficMatch port (addRanges tm principals))

/-- The body the three backend generators share: nothing happens without traffic matches or
    without inbound clusters. -/
def generateBackendRoutePolicy (pipyConf : PipyConf) (trafficMatches : List RouteTrafficMatch)
    (policies : List (Option Trafficpolicy.InboundTrafficPolicy)) : Except String PipyConf :=
  if trafficMatches.length = 0 then .ok pipyConf
  else
    match pipyConf.Inbound with
    | none => .ok pipyConf
    | some itp =>
      if itp.ClustersConfigs.entries.length = 0 then .ok pipyConf
      else
        match trafficMatches.foldlM (addBackendTrafficMatch it pipyConf policies) itp with
        | .error e => .error e
        | .ok itp => .ok { pipyConf with Inbound := some itp }

/-- `generatePipyAccessControlTrafficRoutePolicy`. -/
def generatePipyAccessControlTrafficRoutePolicy (pipyConf : PipyConf)
    (aclPolicy : AccessControlTrafficPolicy) : Except String PipyConf :=
  generateBackendRoutePolicy it pipyConf
    (aclPolicy.TrafficMatches.map fun m => ⟨m.Name, m.Port, m.Protocol, m.SourceIPRanges, m.TLS⟩)
    aclPolicy.HTTPRoutePolicies

/-- `generatePipyIngressTrafficRoutePolicy`. -/
def generatePipyIngressTrafficRoutePolicy (pipyConf : PipyConf)
    (ingressPolicy : IngressTrafficPolicy) : Except String PipyConf :=
  generateBackendRoutePolicy it pipyConf
    (ingressPolicy.TrafficMatches.map fun m => ⟨m.Name, m.Port, m.Protocol, m.SourceIPRanges, m.TLS⟩)
    ingressPolicy.HTTPRoutePolicies

/-- `generatePipyServiceExportTrafficRoutePolicy`. -/
def generatePipyServiceExportTrafficRoutePolicy (pipyConf : PipyConf)
    (expPolicy : ServiceExportTrafficPolicy) : Except String PipyConf :=
  generateBackendRoutePolicy it pipyConf
    (expPolicy.TrafficMatches.map fun m => ⟨m.Name, m.Port, m.Protocol, m.SourceIPRanges, m.TLS⟩)
    expPolicy.HTTPRoutePolicies

/-! ## When the backend generators panic -/

/-- A traffic match name the plugin lookup cannot index. -/
def BadTrafficMatchName (name : String) : Prop := (split '_' name.toList).length ≤ 3

/-- What makes the route policies of a traffic match panic: a nil policy, or a policy with
    rules and a host name that is empty or has to look up a bad traffic match name. -/
def RoutePoliciesPanic (name : String) (policies : List (Option Trafficpolicy.InboundTrafficPolicy)) : Prop :=
  ∃ pol ∈ policies, pol = none ∨
    ∃ p, pol = some p ∧ p.Rules ≠ [] ∧
      ∃ hostname ∈ p.Hostnames, hostname.length = 0 ∨ BadTrafficMatchName name

theorem addBackendHostname_error_iff (pipyConf : PipyConf) (name : String) (rules : List Rule)
    (acc : InboundTrafficMatch × List String) (hostname : String) :
    (∃ e, addBackendHostname it pipyConf name rules acc hostname = .error e) ↔
      hostname.length = 0 ∨ BadTrafficMatchName name := by
  unfold addBackendHostname
  by_cases hh : hostname.length = 0
  · simp [InboundTrafficMatch.newHTTPServiceRouteRules, hh]
  · -- a named rule set exists, so only the plugin lookup can panic
    simp only [InboundTrafficMatch.newHTTPServiceRouteRules, hh, if_false, false_or]
    by_cases hb : BadTrafficMatchName name
    · obtain ⟨e, he⟩ := pipyConf.getTrafficMatchPluginConfigs_error name hb
      simp [he, hb]
    · obtain ⟨plugins, hp⟩ := pipyConf.getTrafficMatchPluginConfigs_ok name (by
        unfold BadTrafficMatchName at hb; omega)
      simp [hp, hb]

theorem addBackendPolicy_error_iff (pipyConf : PipyConf) (name : String)
    (acc : InboundTrafficMatch × List String) (pol : Option Trafficpolicy.InboundTrafficPolicy) :
    (∃ e, addBackendPolicy it pipyConf name acc pol = .error e) ↔
      pol = none ∨ ∃ p, pol = some p ∧ p.Rules ≠ [] ∧
        ∃ hostname ∈ p.Hostnames, hostname.length = 0 ∨ BadTrafficMatchName name := by
  cases pol with
  | none => simp [addBackendPolicy]
  | some p =>
    unfold addBackendPolicy
    by_cases hr : p.Rules.length = 0
    · simp [List.length_eq_zero_iff.mp hr]
    · -- the host names loop panics on its first bad host name, whatever came before
      have hloop := foldlM_error_iff (addBackendHostname it pipyConf name p.Rules)
        (fun hostname => hostname.length = 0 ∨ BadTrafficMatchName name)
        (addBackendHostname_error_iff it pipyConf name p.Rules) p.Hostnames acc
      simp only [hr, if_false, reduceCtorEq, false_or, Option.some.injEq, exists_eq_left']
      rw [hloop]
      simp [List.length_eq_zero_iff.not.mp hr]

theorem foldlM_addBackendPolicy_error_iff (pipyConf : PipyConf) (name : String)
    (policies : List (Option Trafficpolicy.InboundTrafficPolicy)) (acc : InboundTrafficMatch × List String) :
    (∃ e, policies.foldlM (addBackendPolicy it pipyConf name) acc = .error e) ↔
      RoutePoliciesPanic name policies :=
  foldlM_error_iff _ _ (addBackendPolicy_error_iff it pipyConf name) policies acc

theorem addBackendTrafficMatch_error_iff (pipyConf : PipyConf)
    (policies : List (Option Trafficpolicy.InboundTrafficPolicy)) (itp : InboundTrafficPolicy)
    (m : RouteTrafficMatch) :
    (∃ e, addBackendTrafficMatch it pipyConf policies itp m = .error e) ↔
      isHTTPProtocol (toLower m.Protocol) ∧ RoutePoliciesPanic m.Name policies := by
  unfold addBackendTrafficMatch
  by_cases hp : isHTTPProtocol (toLower m.Protocol)
  · have hloop := foldlM_addBackendPolicy_error_iff it pipyConf m.Name policies
    simp only [hp, Bool.not_true, Bool.false_eq_true, if_false, true_and]
    -- the traffic match panics exactly when its route policies loop does
    split
    · rename_i e he
      exact iff_of_true ⟨e, rfl⟩ ((hloop _).1 ⟨e, he⟩)
    · rename_i tm principals he
      refine iff_of_false (by simp) fun hpanic => ?_
      obtain ⟨e, he'⟩ := (hloop _).2 hpanic
      rw [he] at he'
      cases he'
  · simp [hp]

/-- The backend generators panic exactly when there are traffic matches and inbound clusters,
    and the route policies of one traffic match of an HTTP-like protocol panic. -/
theorem generateBackendRoutePolicy_error_iff (pipyConf : PipyConf)
    (trafficMatches : List RouteTrafficMatch) (policies : List (Option Trafficpolicy.InboundTrafficPolicy)) :
    (∃ e, generateBackendRoutePolicy it pipyConf trafficMatches policies = .error e) ↔
      trafficMatches ≠ [] ∧ (∃ itp, pipyConf.Inbound = some itp ∧ itp.ClustersConfigs.entries ≠ []) ∧
        ∃ m ∈ trafficMatches, isHTTPProtocol (toLower m.Protocol) ∧ RoutePoliciesPanic m.Name policies := by
  unfold generateBackendRoutePolicy
  by_cases hn : trafficMatches.length = 0
  · simp [List.length_eq_zero_iff.mp hn]
  · have hne : trafficMatches ≠ [] := List.length_eq_zero_iff.not.mp hn
    simp only [hn, if_false, ne_eq, hne, not_false_eq_true, true_and]
    cases hin : pipyConf.Inbound with
    | none => simp
    | some itp =>
      by_cases hc : itp.ClustersConfigs.entries.length = 0
      · simp [List.length_eq_zero_iff.mp hc]
      · have hloop := foldlM_error_iff (addBackendTrafficMatch it pipyConf policies)
          (fun m => isHTTPProtocol (toLower m.Protocol) ∧ RoutePoliciesPanic m.Name policies)
          (addBackendTrafficMatch_error_iff it pipyConf policies) trafficMatches itp
        simp only [hc, if_false, Option.some.injEq, exists_eq_left',
          List.length_eq_zero_iff.not.mp hc, not_false_eq_true, true_and]
        split
        · rename_i e he
          exact iff_of_true ⟨e, rfl⟩ (hloop.1 ⟨e, he⟩)
        · rename_i itp' he
          refine iff_of_false (by simp) fun hpanic => ?_
          obtain ⟨e, he'⟩ := hloop.2 hpanic
          rw [he] at he'
          cases he'

/-! ## The generators on the catalog's policies -/

/-- Pipy routes a protocol over HTTP that the catalog gives no HTTP route exactly when the
    protocol is `https`. -/
theorem isHTTPProtocol_and_not_isHTTPRouted (protocol : String) :
    (isHTTPProtocol (toLower protocol) = true ∧ isHTTPRouted protocol = false) ↔
      toLower protocol = ProtocolHTTPS := by
  simp only [isHTTPProtocol, isHTTPRouted, ProtocolHTTP, ProtocolHTTPS, ProtocolGRPC]
  generalize toLower protocol = q
  by_cases h₁ : q = "http" <;> by_cases h₂ : q = "https" <;> by_cases h₃ : q = "grpc" <;> simp_all

/-- A policy for the wildcard host with rules panics only on a bad traffic match name. -/
theorem routePoliciesPanic_wildcard {name : String} {pol : Trafficpolicy.InboundTrafficPolicy}
    (hhosts : pol.Hostnames = ["*"]) (hrules : pol.Rules ≠ []) :
    RoutePoliciesPanic name [some pol] ↔ BadTrafficMatchName name := by
  simp [RoutePoliciesPanic, hhosts, hrules]

/-- The AccessControl generator, on what `GetAccessControlTrafficPolicy` returns for a service
    and on a configuration with inbound clusters, panics exactly when the AccessControl selects
    the service only through backends that are not `http` or `grpc`, one of them `https`:
    the catalog then lists a `nil` route policy, which Pipy reads for an `https` port. -/
theorem acl_generator_panics_iff (bc : BackendCatalog) (svc : MeshService) (pipyConf : PipyConf)
    (itp : InboundTrafficPolicy) (acl : AccessControlTrafficPolicy)
    (hin : pipyConf.Inbound = some itp) (hcl : itp.ClustersConfigs.entries ≠ [])
    (hacl : GetAccessControlTrafficPolicy bc svc = .ok (some acl)) :
    (∃ e, generatePipyAccessControlTrafficRoutePolicy it pipyConf acl = .error e) ↔
      ∃ aclPolicy, bc.GetAccessControlPolicy svc = some aclPolicy ∧
        (∀ b ∈ aclPolicy.Backends, Selects svc b → isHTTPRouted b.Port.Protocol = false) ∧
        ∃ b ∈ aclPolicy.Backends, Selects svc b ∧ toLower b.Port.Protocol = ProtocolHTTPS := by
  obtain ⟨aclPolicy, hget, hkeys, hne, hpol⟩ := GetAccessControlTrafficPolicy_routePolicies hacl
  -- the traffic matches are the selecting backends, by name and protocol
  have hmatch : ∀ m ∈ acl.TrafficMatches, ∃ b ∈ aclPolicy.Backends, Selects svc b ∧
      m.Name = Service.AccessControlTrafficMatchName svc.Name svc.Namespace
        (UInt16.ofInt b.Port.Number) b.Port.Protocol ∧ m.Protocol = b.Port.Protocol := by
    intro m hm
    have hk : (m.Name, m.Protocol) ∈ acl.TrafficMatches.map fun m => (m.Name, m.Protocol) :=
      List.mem_map.mpr ⟨m, hm, rfl⟩
    rw [hkeys] at hk
    obtain ⟨b, hb, hbk⟩ := List.mem_map.mp hk
    simp only [Prod.mk.injEq] at hbk
    exact ⟨b, (List.mem_filter.mp hb).1, (List.mem_filter.mp hb).2, hbk.1.symm, hbk.2.symm⟩
  have hback : ∀ b ∈ aclPolicy.Backends, Selects svc b →
      ∃ m ∈ acl.TrafficMatches, m.Protocol = b.Port.Protocol := by
    intro b hb hsel
    have hk : _ ∈ (aclPolicy.Backends.filter (Selects svc)).map fun b =>
        (Service.AccessControlTrafficMatchName svc.Name svc.Namespace (UInt16.ofInt b.Port.Number)
          b.Port.Protocol, b.Port.Protocol) := List.mem_map.mpr ⟨b, List.mem_filter.mpr ⟨hb, hsel⟩, rfl⟩
    rw [← hkeys] at hk
    obtain ⟨m, hm, hmk⟩ := List.mem_map.mp hk
    exact ⟨m, hm, (Prod.mk.inj hmk).2⟩
  rw [generatePipyAccessControlTrafficRoutePolicy, generateBackendRoutePolicy_error_iff]
  simp only [ne_eq, List.map_eq_nil_iff, hne, not_false_eq_true, hin, Option.some.injEq,
    exists_eq_left', hcl, true_and, List.mem_map, hget, exists_eq_left']
  rcases hpol with ⟨hnil, hnotRouted⟩ | ⟨⟨pol, hsome, hhosts, hrules⟩, b, hb, hsel, hrouted⟩
  · -- a `nil` route policy: every HTTP-like traffic match panics, and those are `https`
    have hpanic : ∀ name, RoutePoliciesPanic name acl.HTTPRoutePolicies := fun name =>
      ⟨none, by simp [hnil], Or.inl rfl⟩
    simp only [hpanic, and_true]
    constructor
    · rintro ⟨_, ⟨m, hm, rfl⟩, hhttp⟩
      obtain ⟨b, hb, hsel, -, hprot⟩ := hmatch m hm
      exact ⟨hnotRouted, b, hb, hsel, (isHTTPProtocol_and_not_isHTTPRouted _).1
        ⟨hprot ▸ hhttp, hnotRouted b hb hsel⟩⟩
    · rintro ⟨-, b, hb, hsel, hhttps⟩
      obtain ⟨m, hm, hprot⟩ := hback b hb hsel
      exact ⟨_, ⟨m, hm, rfl⟩, hprot ▸ ((isHTTPProtocol_and_not_isHTTPRouted _).2 hhttps).1⟩
  · -- a policy with rules for the wildcard host: the names are good, so nothing panics
    rw [hsome]
    refine iff_of_false ?_ fun ⟨hnone, _⟩ => absurd (hnone b hb hsel) (by simp [hrouted])
    rintro ⟨_, ⟨m, hm, rfl⟩, -, hbad⟩
    obtain ⟨b', -, -, hname, -⟩ := hmatch m hm
    have hgood : 3 < (split '_' m.Name.toList).length := by
      have := three_lt_length_split_name "acl" (svc.Namespace ++ "/" ++ svc.Name)
        (toString (UInt16.ofInt b'.Port.Number)) b'.Port.Protocol
      simpa [hname, AccessControlTrafficMatchName, String.toList_append] using this
    rw [routePoliciesPanic_wildcard hhosts hrules, BadTrafficMatchName] at hbad
    dsimp only at hbad
    omega

/-- A service served over `https` on port 8443. -/
def httpsService : MeshService :=
  { Namespace := "app", Name := "api", Port := 8443, TargetPort := 8443, Protocol := "https" }

/-- An AccessControl that lets one authenticated client reach that service over mTLS. -/
def httpsAccessControl : AccessControl :=
  { Name := "api-acl", Namespace := "app"
    Backends := [{ Name := "api", Port := { Number := 8443, Protocol := "https" },
                   TLS := some { SkipClientCertValidation := false, SNIHosts := [] } }]
    Sources := [{ Kind := KindAuthenticatedPrincipal, Name := "client.app.cluster.local",
                  Namespace := "" }] }

/-- A catalog with the AccessControl feature on and that AccessControl for every service. -/
def httpsCatalog : BackendCatalog :=
  { EnableAccessControlPolicy := true
    EnableIngressBackendPolicy := false
    GetAccessControlPolicy := fun _ => some httpsAccessControl
    GetIngressBackendPolicy := fun _ => none
    listEndpointsForService := fun _ => []
    GetExportedRule := fun _ => .ok none
    GetIngressControllerServices := [] }

/-- What `GetAccessControlTrafficPolicy` builds from it: one traffic match, a `nil` route
    policy. -/
def httpsAclPolicy : AccessControlTrafficPolicy :=
  { TrafficMatches := [{ Name := "acl_app/api_8443_https", Port := 8443, Protocol := "https",
                         SourceIPRanges := [],
                         TLS := some { SkipClientCertValidation := false, SNIHosts := [] } }]
    HTTPRoutePolicies := [none] }

/-- The inbound policy the mesh generator leaves for the service: its local cluster. -/
def httpsInbound : InboundTrafficPolicy :=
  { TrafficMatches := ∅
    ClustersConfigs := (∅ : AList fun _ : String => AList fun _ : String => UInt32).insert
      "app/api|8443|local" ((∅ : AList fun _ : String => UInt32).insert "10.0.0.5:8443" 100) }

/-- A configuration with that inbound policy. -/
def httpsConf : PipyConf :=
  { Inbound := some httpsInbound, enablePermissiveTrafficPolicyMode := false, pluginPolicies := ∅ }

theorem acl_generator_panics_httpsService :
    ∃ e, generatePipyAccessControlTrafficRoutePolicy Rds.ascendingOrder httpsConf httpsAclPolicy =
      .error e :=
  (acl_generator_panics_iff Rds.ascendingOrder httpsCatalog httpsService httpsConf httpsInbound
      httpsAclPolicy rfl (by simp [httpsInbound]) rfl).2
    ⟨httpsAccessControl, rfl, by decide, _, List.mem_singleton_self _, by decide, by decide⟩

/-- The export generator, on what `GetExportTrafficPolicy` returns and on a configuration
    with inbound clusters, panics exactly when the service's protocol is `https`. -/
theorem export_generator_panics_iff (bc : BackendCatalog) (svc : MeshService)
    (pipyConf : PipyConf) (itp : InboundTrafficPolicy) (expPolicy : ServiceExportTrafficPolicy)
    (hin : pipyConf.Inbound = some itp) (hcl : itp.ClustersConfigs.entries ≠ [])
    (hexp : GetExportTrafficPolicy bc svc = .ok (some expPolicy)) :
    (∃ e, generatePipyServiceExportTrafficRoutePolicy it pipyConf expPolicy = .error e) ↔
      toLower svc.Protocol = ProtocolHTTPS := by
  obtain ⟨m, htm, hprot, hname, hpol⟩ := GetExportTrafficPolicy_routePolicies hexp
  rw [generatePipyServiceExportTrafficRoutePolicy, generateBackendRoutePolicy_error_iff, htm]
  simp only [List.map_cons, List.map_nil, ne_eq, reduceCtorEq, not_false_eq_true, hin,
    Option.some.injEq, exists_eq_left', hcl, true_and, List.mem_singleton, exists_eq_left, hprot]
  rcases hpol with ⟨hnil, hnot⟩ | ⟨⟨pol, hsome, hhosts, hrules⟩, hrouted⟩
  · -- a `nil` route policy panics for every HTTP-like protocol, and that is `https` here
    have hpanic : RoutePoliciesPanic m.Name expPolicy.HTTPRoutePolicies :=
      ⟨none, by simp [hnil], Or.inl rfl⟩
    simp only [hpanic, and_true]
    exact ⟨fun h => (isHTTPProtocol_and_not_isHTTPRouted _).1 ⟨h, hnot⟩,
      fun h => ((isHTTPProtocol_and_not_isHTTPRouted _).2 h).1⟩
  · rw [hsome, routePoliciesPanic_wildcard hhosts hrules]
    refine iff_of_false (fun ⟨_, hbad⟩ => ?_) (fun h => ?_)
    · unfold BadTrafficMatchName at hbad
      omega
    · have := ((isHTTPProtocol_and_not_isHTTPRouted svc.Protocol).2 h).2
      rw [hrouted] at this
      cases this

theorem export_generator_panics_httpsService :
    ∃ e, generatePipyServiceExportTrafficRoutePolicy Rds.ascendingOrder httpsConf
      { TrafficMatches := [{ Name := "exp_app/api_8443_https", Port := 8443, Protocol := "https",
                             SourceIPRanges := [], TLS := none }]
        HTTPRoutePolicies := [none] } = .error e :=
  (export_generator_panics_iff Rds.ascendingOrder
      { httpsCatalog with GetExportedRule := fun _ => .ok (some { PortNumber := 8443 }) }
      httpsService httpsConf httpsInbound _ rfl (by simp [httpsInbound]) rfl).2 (by decide)

/-- The ingress generator never panics on what `GetIngressTrafficPolicy` returns: its route
    policy is always there, for the wildcard host, and its traffic match names are good. -/
theorem ingress_generator_never_panics (bc : BackendCatalog) (svc : MeshService)
    (pipyConf : PipyConf) (ingressPolicy : IngressTrafficPolicy)
    (hing : GetIngressTrafficPolicy bc svc = .ok (some ingressPolicy)) :
    ∃ conf, generatePipyIngressTrafficRoutePolicy it pipyConf ingressPolicy = .ok conf := by
  obtain ⟨hnames, pol, hsome, hhosts, hrules, -⟩ := GetIngressTrafficPolicy_routePolicies hing
  cases h : generatePipyIngressTrafficRoutePolicy it pipyConf ingressPolicy with
  | ok conf => exact ⟨conf, rfl⟩
  | error e =>
    -- a panic would need a bad traffic match name
    obtain ⟨-, -, _, hm, -, hpanic⟩ := (generateBackendRoutePolicy_error_iff it pipyConf _ _).1 ⟨e, h⟩
    rw [hsome, routePoliciesPanic_wildcard hhosts hrules, BadTrafficMatchName] at hpanic
    obtain ⟨m, hm', rfl⟩ := List.mem_map.mp hm
    have := hnames m hm'
    dsimp only at hpanic
    omega

/-- An IngressBackend for the `https` service with no sources. -/
def httpsIngressBackend : IngressBackend :=
  { Name := "api-ingress", Namespace := "app", Sources := []
    Backends := [{ Name := "api", Port := { Number := 8443, Protocol := "https" }, TLS := none }] }

/-- What `GetIngressTrafficPolicy` builds from it. -/
def httpsIngressPolicy : IngressTrafficPolicy :=
  { TrafficMatches := [{ Name := "ingress_app/api_8443_https", Port := 8443, Protocol := "https",
                         SourceIPRanges := [], TLS := none, ServerNames := [],
                         SkipClientCertValidation := false }]
    HTTPRoutePolicies := [some { Name := "app/api_from_api-ingress", Hostnames := ["*"],
                                 Rules := [{ Route := backendRoute httpsService,
                                             AllowedPrincipals := ∅ }] }] }

theorem ingress_generator_never_panics_httpsService :
    ∃ conf, generatePipyIngressTrafficRoutePolicy Rds.ascendingOrder httpsConf httpsIngressPolicy =
      .ok conf :=
  ingress_generator_never_panics Rds.ascendingOrder
    { httpsCatalog with
      EnableIngressBackendPolicy := true
      GetIngressBackendPolicy := fun _ => some httpsIngressBackend }
    httpsService httpsConf httpsIngressPolicy rfl

end generators

end OsmEdge.Pipy
