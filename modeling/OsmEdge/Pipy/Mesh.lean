import OsmEdge.Pipy.Inbound
import Mathlib.Data.Finset.Image

/-
  The mesh part of a proxy's inbound Pipy configuration (`generatePipyInboundTrafficPolicy`,
  `pkg/sidecar/providers/pipy/repo/util.go`), and the `inbound` step of the configuration
  job (`jobs.go`), which runs it and then the backend generators of each of the proxy's
  services.

  For each traffic match of the catalog's inbound mesh policy the generator finds the
  service the match name stands for and that service's local cluster, and fills the traffic
  match of the cluster's port: for `http` and `grpc` the route rules of the service's route
  configuration, for `tcp` the cluster. Then every cluster gets its endpoint.

  Proved:
  * `generatePipyInboundTrafficPolicy_error_iff`: the generator panics exactly when a traffic
    match's name is not `xxx_<namespace>/<name>_<port>_<protocol>` or names a service whose
    local cluster the policy does not list. The plugin lookup, the other index into the name,
    cannot panic then (`fields` keeps fewer pieces than `split`), and the route
    configuration's name is the service's FQDN, never empty.
  * `AllowedServices_addMeshRule`: the route rule a rule adds allows the identities of the
    rule's principals in the order the Go set hands them out, or any service if one of them
    is the wildcard. Nothing later sorts them (`reorder` sorts the rules, not their
    services), so the configuration's text depends on that order.
  * `route_rule_encodes_principals`: a route rule lists no service, the Pipy script's
    any-identity case, exactly when a principal stands for the wildcard identity or, on a new
    route rule, when the rule has no principal at all.
-/

namespace OsmEdge.Pipy

open OsmEdge.Trafficpolicy OsmEdge.Service OsmEdge.Identity OsmEdge.Catalog OsmEdge.Constants
open GoText ExceptLoop

/-! ## Lookups -/

/-- `k8s.NamespacedNameFrom` (`pkg/k8s/util.go`): the namespace and the name of
    `namespace/name`; nothing for a text with no slash or with more than one. -/
def NamespacedNameFrom (name : List Char) : Option (String × String) :=
  match split '/' name with
  | [ns, n] => some (String.ofList ns, String.ofList n)
  | _ => none

/-- `trafficMatchToMeshSvc`: the service of a traffic match named
    `xxx_<namespace>/<name>_<port>_<protocol>` (empty pieces between separators dropped),
    with the match's port and lowered protocol; nil for any other name. -/
def trafficMatchToMeshSvc (trafficMatch : TrafficMatch) : Option MeshService :=
  match fields '_' trafficMatch.Name.toList with
  | [_, nsName, _, _] =>
    (NamespacedNameFrom nsName).map fun (ns, name) =>
      { Namespace := ns, Name := name, Port := 0
        TargetPort := UInt16.ofInt trafficMatch.DestinationPort
        Protocol := toLower trafficMatch.DestinationProtocol }
  | _ => none

/-- `getMeshClusterConfigs`: the first cluster of the name. -/
def getMeshClusterConfigs (clustersConfigs : List MeshClusterConfig) (clusterName : String) :
    Option MeshClusterConfig :=
  clustersConfigs.find? fun c => decide (clusterName = c.Name)

/-- `getInboundHTTPRouteConfigs`: the first route configuration of the port that is named
    for the service. -/
def getInboundHTTPRouteConfigs
    (httpRouteConfigsPerPort : AList fun _ : Int => List Trafficpolicy.InboundTrafficPolicy)
    (targetPort : Int) (upstreamSvcFQDN : String) : Option Trafficpolicy.InboundTrafficPolicy :=
  match httpRouteConfigsPerPort.lookup targetPort with
  | some httpRouteConfigs => httpRouteConfigs.find? fun c => decide (c.Name = upstreamSvcFQDN)
  | none => none

/-- The cluster a traffic match leads to: the local cluster of the service its name stands
    for. The generator dereferences both lookups. -/
def meshClusterOf (inboundPolicy : InboundMeshTrafficPolicy) (trafficMatch : TrafficMatch) :
    Option MeshClusterConfig :=
  (trafficMatchToMeshSvc trafficMatch).bind fun upstreamSvc =>
    getMeshClusterConfigs inboundPolicy.ClustersConfigs upstreamSvc.SidecarLocalClusterName

/-- A traffic match whose name gives a service has at least four `_`-separated pieces. -/
theorem three_lt_length_split_of_trafficMatchToMeshSvc {trafficMatch : TrafficMatch}
    {upstreamSvc : MeshService} (h : trafficMatchToMeshSvc trafficMatch = some upstreamSvc) :
    3 < (split '_' trafficMatch.Name.toList).length := by
  have hfields : (fields '_' trafficMatch.Name.toList).length = 4 := by
    unfold trafficMatchToMeshSvc at h
    split at h
    · rename_i hf
      rw [hf]
      rfl
    · cases h
  have := length_fields_le '_' trafficMatch.Name.toList
  omega

/-- A route configuration found for a service is named after the service. -/
theorem getInboundHTTPRouteConfigs_Name
    {httpRouteConfigsPerPort : AList fun _ : Int => List Trafficpolicy.InboundTrafficPolicy}
    {targetPort : Int} {upstreamSvcFQDN : String} {c : Trafficpolicy.InboundTrafficPolicy}
    (h : getInboundHTTPRouteConfigs httpRouteConfigsPerPort targetPort upstreamSvcFQDN = some c) :
    c.Name = upstreamSvcFQDN := by
  unfold getInboundHTTPRouteConfigs at h
  split at h
  · simpa using List.find?_some h
  · cases h

theorem FQDN_length_ne_zero (svc : MeshService) : svc.FQDN.length ≠ 0 := by
  have : ".svc.cluster.local".length = 18 := rfl
  simp only [MeshService.FQDN, String.length_append]
  omega

/-! ## The generator -/

section generator

variable (it : Rds.MapOrder) (trustDomain : String)
  (ListEndpointsForServiceIdentity : ServiceIdentity → List String)

/-- One iteration of the principals loop of a rule: the principal's identity is allowed on
    route rule `i`; unless the principal is the wildcard or the mesh is permissive, the
    addresses of the identity's endpoints (`ep.IP.String()`) are allowed too. -/
def addMeshPrincipal (pipyConf : PipyConf) (i : Nat) (hsrrs : InboundHTTPRouteRules)
    (servicePrincipal : String) : InboundHTTPRouteRules :=
  let serviceIdentity := FromPrincipal servicePrincipal trustDomain
  let hsrrs := hsrrs.modifyRule i (·.addAllowedService serviceIdentity)
  if WildcardPrincipal = servicePrincipal || pipyConf.enablePermissiveTrafficPolicyMode then hsrrs
  else (ListEndpointsForServiceIdentity serviceIdentity).foldl
    (fun hsrrs allowedEndpoint => hsrrs.addAllowedEndpoint allowedEndpoint serviceIdentity) hsrrs

/-- One iteration of the rules loop: a rule with a path gets its route rule and its
    principals, in set order. -/
def addMeshRule (pipyConf : PipyConf) (hsrrs : InboundHTTPRouteRules) (rule : Rule) :
    InboundHTTPRouteRules :=
  if rule.Route.HTTPRouteMatch.Path.length = 0 then hsrrs
  else
    let (hsrrs, i) := newRouteRule it hsrrs rule.Route
    (it.principals.enum rule.AllowedPrincipals).foldl
      (addMeshPrincipal trustDomain ListEndpointsForServiceIdentity pipyConf i) hsrrs

/-- The HTTP part of a traffic match: the rules named after the route configuration get the
    plugins of the traffic match and the configuration's rules, and each host name leads to
    them. -/
def addMeshHTTPRoutes (pipyConf : PipyConf) (trafficMatch : TrafficMatch)
    (httpRouteConfig : Trafficpolicy.InboundTrafficPolicy) (tm : InboundTrafficMatch) :
    Except String InboundTrafficMatch :=
  let ruleName := httpRouteConfig.Name
  match tm.newHTTPServiceRouteRules ruleName with
  | none => .error errNilDereference
  | some hsrrs =>
    (pipyConf.getTrafficMatchPluginConfigs trafficMatch.Name).map fun plugins =>
      let tm := httpRouteConfig.Hostnames.foldl
        (fun tm hostname => tm.addHTTPHostPort2Service hostname ruleName) tm
      let hsrrs := httpRouteConfig.Rules.foldl
        (addMeshRule it trustDomain ListEndpointsForServiceIdentity pipyConf)
        { hsrrs with Plugins := plugins }
      tm.setRouteRules ruleName hsrrs

/-- One iteration of the traffic matches loop. The traffic match of the cluster's port gets
    the protocol and the port of the match; a match of an HTTP service without a route
    configuration stays so (`continue`). -/
def addMeshTrafficMatch (pipyConf : PipyConf) (inboundPolicy : InboundMeshTrafficPolicy)
    (itp : InboundTrafficPolicy) (trafficMatch : TrafficMatch) : Except String InboundTrafficPolicy :=
  let destinationProtocol := toLower trafficMatch.DestinationProtocol
  match trafficMatchToMeshSvc trafficMatch with
  | none => .error errNilDereference
  | some upstreamSvc =>
    match getMeshClusterConfigs inboundPolicy.ClustersConfigs upstreamSvc.SidecarLocalClusterName with
    | none => .error errNilDereference
    | some cluster =>
      let port := cluster.Service.Port
      let tm := ((itp.newTrafficMatch port).setProtocol destinationProtocol).setPort
        (UInt16.ofInt trafficMatch.DestinationPort)
      -- the `grpc` test reads the protocol before it is lowered
      if destinationProtocol = ProtocolHTTP || trafficMatch.DestinationProtocol = ProtocolGRPC then
        match getInboundHTTPRouteConfigs inboundPolicy.HTTPRouteConfigsPerPort
            (upstreamSvc.TargetPort.toNat : Int) upstreamSvc.FQDN with
        | none => .ok (itp.setTrafficMatch port tm)
        | some httpRouteConfig =>
          (addMeshHTTPRoutes it trustDomain ListEndpointsForServiceIdentity pipyConf trafficMatch
            httpRouteConfig tm).map (itp.setTrafficMatch port)
      else if destinationProtocol = ProtocolTCP || destinationProtocol = ProtocolTCPServerFirst then
        let tsrr := tm.newTCPServiceRouteRules.addWeightedCluster cluster.Name
          (UInt32.ofInt ClusterWeightAcceptAll)
        (pipyConf.getTrafficMatchPluginConfigs trafficMatch.Name).map fun plugins =>
          itp.setTrafficMatch port (tm.setTCPServiceRouteRules { tsrr with Plugins := plugins })
      else .ok (itp.setTrafficMatch port tm)

/-- One iteration of the clusters loop: the cluster's endpoint, with the port of the cluster
    unless its address carries one. -/
def addMeshClusterConfig (itp : InboundTrafficPolicy) (cluster : MeshClusterConfig) :
    InboundTrafficPolicy :=
  itp.setClusterConfigs cluster.Name
    (addWeightedEndpoint (itp.newClusterConfigs cluster.Name) cluster.Address cluster.Port.toUInt16
      (UInt32.ofInt ClusterWeightAcceptAll))

/-- `generatePipyInboundTrafficPolicy`. -/
def generatePipyInboundTrafficPolicy (pipyConf : PipyConf) (inboundPolicy : InboundMeshTrafficPolicy) :
    Except String PipyConf :=
  (inboundPolicy.TrafficMatches.foldlM
      (addMeshTrafficMatch it trustDomain ListEndpointsForServiceIdentity pipyConf inboundPolicy)
      pipyConf.newInboundTrafficPolicy).map fun itp =>
    { pipyConf with Inbound := some (inboundPolicy.ClustersConfigs.foldl addMeshClusterConfig itp) }

/-- A backend generator run on a policy the catalog returned without error; nothing happens
    on an error or on no policy. -/
def generateIfPolicy {P : Type} (gen : PipyConf → P → Except String PipyConf)
    (policy : Except String (Option P)) (pipyConf : PipyConf) : Except String PipyConf :=
  match policy with
  | .ok (some p) => gen pipyConf p
  | _ => .ok pipyConf

/-- `inbound`: the mesh generator on the catalog's inbound mesh policy, then for each of the
    proxy's services the ingress, AccessControl and export generators. -/
def inbound (bc : BackendCatalog) (pipyConf : PipyConf)
    (inboundTrafficPolicy : InboundMeshTrafficPolicy) (proxyServices : List MeshService) :
    Except String PipyConf :=
  match generatePipyInboundTrafficPolicy it trustDomain ListEndpointsForServiceIdentity pipyConf
      inboundTrafficPolicy with
  | .error e => .error e
  | .ok pipyConf =>
    proxyServices.foldlM (fun pipyConf svc => do
      let pipyConf ← generateIfPolicy (generatePipyIngressTrafficRoutePolicy it)
        (GetIngressTrafficPolicy bc svc) pipyConf
      let pipyConf ← generateIfPolicy (generatePipyAccessControlTrafficRoutePolicy it)
        (GetAccessControlTrafficPolicy bc svc) pipyConf
      generateIfPolicy (generatePipyServiceExportTrafficRoutePolicy it)
        (GetExportTrafficPolicy bc svc) pipyConf) pipyConf

/-! ## The services a route rule allows -/

theorem addMeshPrincipal_RouteRules (pipyConf : PipyConf) (i : Nat) (hsrrs : InboundHTTPRouteRules)
    (servicePrincipal : String) :
    (addMeshPrincipal trustDomain ListEndpointsForServiceIdentity pipyConf i hsrrs
      servicePrincipal).RouteRules =
      hsrrs.RouteRules.modify i (·.addAllowedService (FromPrincipal servicePrincipal trustDomain)) := by
  unfold addMeshPrincipal
  split
  · rfl
  · -- allowing endpoints leaves the route rules alone
    rw [foldl_keeps InboundHTTPRouteRules.RouteRules _
      (fun hsrrs a => InboundHTTPRouteRules.addAllowedEndpoint_RouteRules hsrrs a _)]
    rfl

/-- The principals loop allows the principals' identities on rule `i`, one by one. -/
theorem foldl_addMeshPrincipal_RouteRules (pipyConf : PipyConf) (i : Nat) :
    ∀ (principals : List String) (hsrrs : InboundHTTPRouteRules),
      (principals.foldl (addMeshPrincipal trustDomain ListEndpointsForServiceIdentity pipyConf i)
        hsrrs).RouteRules =
        hsrrs.RouteRules.modify i fun r =>
          (principals.map (FromPrincipal · trustDomain)).foldl InboundHTTPRouteRule.addAllowedService r
  | [], hsrrs => (List.modify_id i _).symm
  | p :: ps, hsrrs => by
    rw [List.foldl_cons, foldl_addMeshPrincipal_RouteRules pipyConf i ps,
      addMeshPrincipal_RouteRules, List.modify_modify_eq]
    rfl

/-- The identities of a rule's principals, in the order the set hands them out. -/
def principalIdentities (rule : Rule) : List ServiceIdentity :=
  (it.principals.enum rule.AllowedPrincipals).map (FromPrincipal · trustDomain)

/-- The identities are those of the principals. -/
theorem mem_principalIdentities {rule : Rule} {serviceIdentity : ServiceIdentity} :
    serviceIdentity ∈ principalIdentities it trustDomain rule ↔
      ∃ p ∈ rule.AllowedPrincipals, FromPrincipal p trustDomain = serviceIdentity := by
  simp [principalIdentities]

theorem principalIdentities_eq_nil {rule : Rule} :
    principalIdentities it trustDomain rule = [] ↔ rule.AllowedPrincipals = ∅ := by
  rw [principalIdentities, List.map_eq_nil_iff, List.eq_nil_iff_forall_not_mem,
    Finset.eq_empty_iff_forall_notMem]
  simp

/-- The services a route rule collects from no service and no wildcard. -/
theorem AllowedServices_foldl_addAllowedService (ids : List String) (r : InboundHTTPRouteRule)
    (hflag : r.HTTPMatchRule.allowedAnyService = false) (hfree : "*" ∉ r.AllowedServices) :
    (ids.foldl InboundHTTPRouteRule.addAllowedService r).AllowedServices =
      if "*" ∈ ids then [] else r.AllowedServices ++ ids := by
  rw [foldl_addAllowedService]
  dsimp only
  rw [hflag, foldl_addUnlessAny ids _ hfree]
  split <;> rfl

/-- A rule with a path and a new match rule appends a route rule with the route's clusters
    that the principals' identities are allowed on. -/
theorem addMeshRule_of_new (pipyConf : PipyConf) (hsrrs : InboundHTTPRouteRules)
    (rule : Rule) (hpath : rule.Route.HTTPRouteMatch.Path.length ≠ 0)
    (hnew : ∀ r ∈ hsrrs.RouteRules, r.HTTPMatchRule ≠ httpMatchOf rule.Route) :
    (addMeshRule it trustDomain ListEndpointsForServiceIdentity pipyConf hsrrs rule).RouteRules =
      hsrrs.RouteRules ++ [(principalIdentities it trustDomain rule).foldl InboundHTTPRouteRule.addAllowedService
        (addWeightedClusters it rule.Route.WeightedClusters ⟨httpMatchOf rule.Route, ∅, []⟩)] := by
  unfold addMeshRule
  rw [if_neg hpath, newRouteRule_of_new it hnew]
  dsimp only
  rw [foldl_addMeshPrincipal_RouteRules]
  dsimp only
  rw [modify_length_append]
  rfl

/-- A rule with a path whose match rule route rule `i` has adds the principals' identities to
    route rule `i`. -/
theorem addMeshRule_of_duplicate (pipyConf : PipyConf) (hsrrs : InboundHTTPRouteRules)
    (rule : Rule) (hpath : rule.Route.HTTPRouteMatch.Path.length ≠ 0) {i : Nat}
    (hi : hsrrs.RouteRules.findIdx? (fun r => decide (r.HTTPMatchRule = httpMatchOf rule.Route)) = some i) :
    (addMeshRule it trustDomain ListEndpointsForServiceIdentity pipyConf hsrrs rule).RouteRules =
      hsrrs.RouteRules.modify i
        ((principalIdentities it trustDomain rule).foldl InboundHTTPRouteRule.addAllowedService) := by
  have hdup : newRouteRule it hsrrs rule.Route = (hsrrs, i) := by
    simp [newRouteRule, InboundHTTPRouteRules.newHTTPServiceRouteRule, hi]
  unfold addMeshRule
  rw [if_neg hpath, hdup]
  dsimp only
  rw [foldl_addMeshPrincipal_RouteRules]
  rfl

/-- A rule with a path and a new match rule adds a route rule that allows the identities of
    its principals in the order the Go set hands them out; with the wildcard among them, any
    service. -/
theorem AllowedServices_addMeshRule (pipyConf : PipyConf) (hsrrs : InboundHTTPRouteRules)
    (rule : Rule) (hpath : rule.Route.HTTPRouteMatch.Path.length ≠ 0)
    (hnew : ∀ r ∈ hsrrs.RouteRules, r.HTTPMatchRule ≠ httpMatchOf rule.Route) :
    ∃ r, (addMeshRule it trustDomain ListEndpointsForServiceIdentity pipyConf hsrrs rule).RouteRules =
        hsrrs.RouteRules ++ [r] ∧
      r.AllowedServices =
        if "*" ∈ principalIdentities it trustDomain rule then [] else principalIdentities it trustDomain rule := by
  refine ⟨_, addMeshRule_of_new it trustDomain ListEndpointsForServiceIdentity pipyConf hsrrs rule hpath hnew, ?_⟩
  -- the new rule starts with no services and without the wildcard flag
  rw [AllowedServices_foldl_addAllowedService _ _
    (by rw [addWeightedClusters_HTTPMatchRule, httpMatchOf_allowedAnyService])
    (by rw [addWeightedClusters_AllowedServices]; exact List.not_mem_nil), addWeightedClusters_AllowedServices,
    List.nil_append]

/-- A rule on the prefix `/` to the local cluster of `demo/api` that two clients may use. -/
def demoRule : Rule :=
  { Route := { HTTPRouteMatch := { Path := "/", PathMatchType := .PathMatchPrefix, Methods := []
                                   Headers := ∅ }
               WeightedClusters := {⟨"demo/api|8080|local", 100⟩} }
    AllowedPrincipals := {"alpha.demo.cluster.local", "bravo.demo.cluster.local"} }

theorem AllowedServices_addMeshRule_demoRule :
    demoRule.Route.HTTPRouteMatch.Path.length ≠ 0 ∧
      ∃ r, (addMeshRule Rds.ascendingOrder "cluster.local" (fun _ => []) ⟨none, false, ∅⟩
            ⟨[], ∅, ∅⟩ demoRule).RouteRules = [] ++ [r] ∧
        r.AllowedServices =
          if "*" ∈ principalIdentities Rds.ascendingOrder "cluster.local" demoRule then []
          else principalIdentities Rds.ascendingOrder "cluster.local" demoRule :=
  ⟨by decide, AllowedServices_addMeshRule Rds.ascendingOrder "cluster.local" (fun _ => []) _ _ demoRule
    (by decide) (by simp)⟩

/-- The route rule a rule with a path reaches allows no service listed, the Pipy script's
    any-identity case, exactly when one of the rule's principals stands for the wildcard
    identity or the rule has no principal and the route rule had no service: for a new route
    rule the listed services are then the identities of the principals, as a set; for a
    route rule of the same match rule they follow the services it had. -/
theorem route_rule_encodes_principals (pipyConf : PipyConf) (hsrrs : InboundHTTPRouteRules) (rule : Rule)
    (hpath : rule.Route.HTTPRouteMatch.Path.length ≠ 0) :
    ((∀ r ∈ hsrrs.RouteRules, r.HTTPMatchRule ≠ httpMatchOf rule.Route) →
      ∃ r, (addMeshRule it trustDomain ListEndpointsForServiceIdentity pipyConf hsrrs rule).RouteRules =
          hsrrs.RouteRules ++ [r] ∧
        (r.AllowedServices = [] ↔
          (∃ p ∈ rule.AllowedPrincipals, FromPrincipal p trustDomain = "*") ∨ rule.AllowedPrincipals = ∅) ∧
        ((∀ p ∈ rule.AllowedPrincipals, FromPrincipal p trustDomain ≠ "*") →
          r.AllowedServices.toFinset = rule.AllowedPrincipals.image (FromPrincipal · trustDomain))) ∧
    ((∀ r ∈ hsrrs.RouteRules, "*" ∉ r.AllowedServices) → ∀ i,
      hsrrs.RouteRules.findIdx? (fun r => decide (r.HTTPMatchRule = httpMatchOf rule.Route)) = some i →
      ∃ r₀ r, hsrrs.RouteRules[i]? = some r₀ ∧
        (addMeshRule it trustDomain ListEndpointsForServiceIdentity pipyConf hsrrs rule).RouteRules =
          hsrrs.RouteRules.set i r ∧
        r.AllowedServices = if ∃ p ∈ rule.AllowedPrincipals, FromPrincipal p trustDomain = "*" then []
          else r₀.AllowedServices ++ principalIdentities it trustDomain rule) := by
  have hwild : "*" ∈ principalIdentities it trustDomain rule ↔
      ∃ p ∈ rule.AllowedPrincipals, FromPrincipal p trustDomain = "*" := mem_principalIdentities it trustDomain
  constructor
  · -- a new route rule, with no service and no wildcard before the principals
    intro hnew
    refine ⟨_, addMeshRule_of_new it trustDomain ListEndpointsForServiceIdentity pipyConf hsrrs rule hpath hnew, ?_⟩
    have hservices := AllowedServices_foldl_addAllowedService (principalIdentities it trustDomain rule)
      (addWeightedClusters it rule.Route.WeightedClusters ⟨httpMatchOf rule.Route, ∅, []⟩)
      (by rw [addWeightedClusters_HTTPMatchRule, httpMatchOf_allowedAnyService])
      (by rw [addWeightedClusters_AllowedServices]; exact List.not_mem_nil)
    rw [addWeightedClusters_AllowedServices, List.nil_append] at hservices
    rw [hservices]
    by_cases hw : "*" ∈ principalIdentities it trustDomain rule
    · have hw' := hwild.mp hw
      simp only [if_pos hw, true_iff]
      exact ⟨Or.inl hw', fun hnone => absurd hw' fun ⟨p, hp, hpw⟩ => hnone p hp hpw⟩
    · have hw' : ¬ ∃ p ∈ rule.AllowedPrincipals, FromPrincipal p trustDomain = "*" := fun h => hw (hwild.mpr h)
      simp only [if_neg hw, principalIdentities_eq_nil, hw', false_or, true_and]
      intro _
      ext serviceIdentity
      simp [mem_principalIdentities, Finset.mem_image]
  · -- the first route rule of the same match rule, whose wildcard flag is down
    intro hfree i hi
    obtain ⟨hlt, hmatch, -⟩ := List.findIdx?_eq_some_iff_getElem.mp hi
    let r₀ := hsrrs.RouteRules[i]
    have hr₀ : hsrrs.RouteRules[i]? = some r₀ := List.getElem?_eq_getElem hlt
    have hflag : r₀.HTTPMatchRule.allowedAnyService = false := by
      rw [of_decide_eq_true hmatch, httpMatchOf_allowedAnyService]
    have : Inhabited InboundHTTPRouteRule := ⟨r₀⟩
    refine ⟨r₀, (principalIdentities it trustDomain rule).foldl InboundHTTPRouteRule.addAllowedService r₀, hr₀,
      ?_, ?_⟩
    · rw [addMeshRule_of_duplicate it trustDomain ListEndpointsForServiceIdentity pipyConf hsrrs rule hpath hi,
        List.modify_eq_set, hr₀, Option.getD_some]
    · rw [AllowedServices_foldl_addAllowedService _ r₀ hflag (hfree r₀ (List.getElem_mem hlt))]
      simp only [hwild]

/-- The statement for `demoRule` on an empty set of route rules. -/
theorem route_rule_encodes_principals_demoRule :
    ((∀ r ∈ ([] : List InboundHTTPRouteRule), r.HTTPMatchRule ≠ httpMatchOf demoRule.Route) →
      ∃ r, (addMeshRule Rds.ascendingOrder "cluster.local" (fun _ => []) ⟨none, false, ∅⟩ ⟨[], ∅, ∅⟩
            demoRule).RouteRules = [] ++ [r] ∧
        (r.AllowedServices = [] ↔
          (∃ p ∈ demoRule.AllowedPrincipals, FromPrincipal p "cluster.local" = "*") ∨ demoRule.AllowedPrincipals = ∅) ∧
        ((∀ p ∈ demoRule.AllowedPrincipals, FromPrincipal p "cluster.local" ≠ "*") →
          r.AllowedServices.toFinset = demoRule.AllowedPrincipals.image (FromPrincipal · "cluster.local"))) ∧
    ((∀ r ∈ ([] : List InboundHTTPRouteRule), "*" ∉ r.AllowedServices) → ∀ i,
      ([] : List InboundHTTPRouteRule).findIdx? (fun r => decide (r.HTTPMatchRule = httpMatchOf demoRule.Route)) =
        some i →
      ∃ r₀ r, ([] : List InboundHTTPRouteRule)[i]? = some r₀ ∧
        (addMeshRule Rds.ascendingOrder "cluster.local" (fun _ => []) ⟨none, false, ∅⟩ ⟨[], ∅, ∅⟩
          demoRule).RouteRules = ([] : List InboundHTTPRouteRule).set i r ∧
        r.AllowedServices = if ∃ p ∈ demoRule.AllowedPrincipals, FromPrincipal p "cluster.local" = "*" then []
          else r₀.AllowedServices ++ principalIdentities Rds.ascendingOrder "cluster.local" demoRule) :=
  route_rule_encodes_principals Rds.ascendingOrder "cluster.local" (fun _ => []) ⟨none, false, ∅⟩ ⟨[], ∅, ∅⟩
    demoRule (by decide)

/-- The rule `demoRule` with no principal. -/
def closedDemoRule : Rule := { demoRule with AllowedPrincipals := ∅ }

/-- A rule with no principal adds a route rule that lists no service: nil, which the Pipy
    script reads as any identity. -/
theorem route_rule_no_principal_allows_any :
    (addMeshRule Rds.ascendingOrder "cluster.local" (fun _ => []) ⟨none, false, ∅⟩ ⟨[], ∅, ∅⟩
      closedDemoRule).RouteRules.map (·.AllowedServices) = [[]] := by
  decide

/-! ## When the generator panics -/

theorem addMeshHTTPRoutes_ok (pipyConf : PipyConf) (trafficMatch : TrafficMatch)
    (httpRouteConfig : Trafficpolicy.InboundTrafficPolicy) (tm : InboundTrafficMatch)
    (hname : 3 < (split '_' trafficMatch.Name.toList).length)
    (hrule : httpRouteConfig.Name.length ≠ 0) :
    ∃ tm', addMeshHTTPRoutes it trustDomain ListEndpointsForServiceIdentity pipyConf trafficMatch
      httpRouteConfig tm = .ok tm' := by
  obtain ⟨plugins, hp⟩ := pipyConf.getTrafficMatchPluginConfigs_ok trafficMatch.Name hname
  simp [addMeshHTTPRoutes, InboundTrafficMatch.newHTTPServiceRouteRules, hrule, hp]

/-- A traffic match that leads to a cluster cannot panic: its name is good, and a route
    configuration is named after the service. -/
theorem addMeshTrafficMatch_ok (pipyConf : PipyConf) (inboundPolicy : InboundMeshTrafficPolicy)
    (itp : InboundTrafficPolicy) {trafficMatch : TrafficMatch} {cluster : MeshClusterConfig}
    (hcluster : meshClusterOf inboundPolicy trafficMatch = some cluster) :
    ∃ itp', addMeshTrafficMatch it trustDomain ListEndpointsForServiceIdentity pipyConf
      inboundPolicy itp trafficMatch = .ok itp' := by
  obtain ⟨upstreamSvc, hsvc, hcl⟩ := Option.bind_eq_some_iff.mp hcluster
  have hname := three_lt_length_split_of_trafficMatchToMeshSvc hsvc
  obtain ⟨plugins, hp⟩ := pipyConf.getTrafficMatchPluginConfigs_ok trafficMatch.Name hname
  unfold addMeshTrafficMatch
  simp only [hsvc, hcl]
  split_ifs with hhttp htcp
  · cases hc : getInboundHTTPRouteConfigs inboundPolicy.HTTPRouteConfigsPerPort
        (upstreamSvc.TargetPort.toNat : Int) upstreamSvc.FQDN with
    | none => exact ⟨_, rfl⟩
    | some httpRouteConfig =>
      have hrule : httpRouteConfig.Name.length ≠ 0 := by
        rw [getInboundHTTPRouteConfigs_Name hc]
        exact FQDN_length_ne_zero upstreamSvc
      obtain ⟨tm', htm'⟩ := addMeshHTTPRoutes_ok it trustDomain ListEndpointsForServiceIdentity
        pipyConf trafficMatch httpRouteConfig _ hname hrule
      dsimp only
      rw [htm']
      exact ⟨_, rfl⟩
  · simp [hp]
  · exact ⟨_, rfl⟩

theorem addMeshTrafficMatch_error_iff (pipyConf : PipyConf) (inboundPolicy : InboundMeshTrafficPolicy)
    (itp : InboundTrafficPolicy) (trafficMatch : TrafficMatch) :
    (∃ e, addMeshTrafficMatch it trustDomain ListEndpointsForServiceIdentity pipyConf inboundPolicy
      itp trafficMatch = .error e) ↔ meshClusterOf inboundPolicy trafficMatch = none := by
  cases hcluster : meshClusterOf inboundPolicy trafficMatch with
  | some cluster =>
    obtain ⟨itp', hok⟩ := addMeshTrafficMatch_ok it trustDomain ListEndpointsForServiceIdentity
      pipyConf inboundPolicy itp hcluster
    simp [hok]
  | none =>
    -- one of the two lookups is nil, and the generator dereferences it
    simp only [iff_true]
    unfold addMeshTrafficMatch
    cases hsvc : trafficMatchToMeshSvc trafficMatch with
    | none => exact ⟨_, rfl⟩
    | some upstreamSvc =>
      have hcl : getMeshClusterConfigs inboundPolicy.ClustersConfigs
          upstreamSvc.SidecarLocalClusterName = none := by
        simpa [meshClusterOf, hsvc] using hcluster
      simp [hcl]

/-- The generator panics exactly when a traffic match does not lead to a cluster. -/
theorem generatePipyInboundTrafficPolicy_error_iff (pipyConf : PipyConf)
    (inboundPolicy : InboundMeshTrafficPolicy) :
    (∃ e, generatePipyInboundTrafficPolicy it trustDomain ListEndpointsForServiceIdentity pipyConf
      inboundPolicy = .error e) ↔
      ∃ trafficMatch ∈ inboundPolicy.TrafficMatches, meshClusterOf inboundPolicy trafficMatch = none := by
  rw [generatePipyInboundTrafficPolicy, map_error_iff]
  exact foldlM_error_iff _ _
    (addMeshTrafficMatch_error_iff it trustDomain ListEndpointsForServiceIdentity pipyConf inboundPolicy)
    inboundPolicy.TrafficMatches pipyConf.newInboundTrafficPolicy

end generator

end OsmEdge.Pipy
