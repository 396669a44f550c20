import OsmEdge.Catalog.Backends
import OsmEdge.Catalog.Smi
import OsmEdge.Lib.GoMap
import OsmEdge.Lib.ExceptLoop

/-
  Egress (`pkg/catalog/egress.go`, `egress_gateway.go`, `pkg/trafficpolicy/egress_types.go`):
  the policy a source identity gets from the Egress resources that list its service
  account.

  Each Egress policy, unless it names an UpstreamTrafficSetting that does not exist, adds for
  every port it lists a traffic match named after the port and the protocol, and for an
  `http` port one HTTP route configuration per host, kept in a map by port number. The
  traffic matches and the cluster configurations are deduplicated by a structural hash; the
  route configurations are not: every listed policy and every HTTP port of it appends its
  hosts' configurations to the port's slice (`lookup_HTTPRouteConfigsPerPort`).

  Left out: the IPv6 ranges `net.ParseCIDR` accepts (ranges are checked with
  `Ipv4.parseCIDR`), the spec of an UpstreamTrafficSetting (it is passed through, never
  read), and the error of `hashstructure.Hash`, which these types never cause.
-/

namespace OsmEdge.Trafficpolicy

open GoText

/-- `UpstreamTrafficSetting`, by its key; the egress builders only pass it on. -/
structure UpstreamTrafficSetting where
  Namespace : String
  Name : String
  deriving DecidableEq, Hashable, Repr

/-- `corev1.SecretReference`. -/
structure SecretReference where
  Name : String
  Namespace : String
  deriving DecidableEq, Hashable, Repr

/-- `EgressSourceCertSpec`. -/
structure EgressSourceCertSpec where
  SerialNumber : Int
  SubjectAltNames : List String
  Expiration : String
  Secret : SecretReference
  deriving DecidableEq, Hashable, Repr

/-- `EgressSourceMTLSSpec`. -/
structure EgressSourceMTLSSpec where
  Issuer : String
  Cert : Option EgressSourceCertSpec
  deriving DecidableEq, Hashable, Repr

/-- `EgressClusterConfig`; `Host` is empty for a TCP or HTTPS cluster. -/
structure EgressClusterConfig where
  Name : String
  Host : String
  Port : Int
  UpstreamTrafficSetting : Option UpstreamTrafficSetting
  SourceMTLS : Option EgressSourceMTLSSpec
  deriving DecidableEq, Hashable, Repr

/-- `EgressHTTPRoutingRule`. -/
structure EgressHTTPRoutingRule where
  Route : RouteWeightedClusters
  AllowedDestinationIPRanges : List String

/-- `EgressHTTPRouteConfig`. -/
structure EgressHTTPRouteConfig where
  Name : String
  Hostnames : List String
  RoutingRules : List EgressHTTPRoutingRule

/-- `EgressTrafficPolicy`. -/
structure EgressTrafficPolicy where
  TrafficMatches : List TrafficMatch
  HTTPRouteConfigsPerPort : AList fun _ : Int => List EgressHTTPRouteConfig
  ClustersConfigs : List EgressClusterConfig

/-- `GetEgressTrafficMatchName`: `egress-<protocol>.<port>`, the protocol lowered. -/
def GetEgressTrafficMatchName (port : Int) (protocol : String) : String :=
  "egress-" ++ toLower protocol ++ "." ++ toString port

/-- `hashstructure.Hash` with `SlicesAsSets`, on the two types deduplicated, and the order in
    which the runtime ranges over a map keyed by the hashes. -/
structure Dedup where
  hashTrafficMatch : TrafficMatch → UInt64
  hashClusterConfig : EgressClusterConfig → UInt64
  order : GoSet.Enumerator UInt64

/-- `DeduplicateTrafficMatches`. -/
def DeduplicateTrafficMatches (dd : Dedup) (trafficMatches : List TrafficMatch) : List TrafficMatch :=
  GoMap.dedupByHash dd.hashTrafficMatch dd.order trafficMatches

/-- `DeduplicateClusterConfigs`. -/
def DeduplicateClusterConfigs (dd : Dedup) (configs : List EgressClusterConfig) :
    List EgressClusterConfig :=
  GoMap.dedupByHash dd.hashClusterConfig dd.order configs

end OsmEdge.Trafficpolicy

namespace OsmEdge.Catalog

open OsmEdge.Identity OsmEdge.Trafficpolicy OsmEdge.Constants GoText

/-! ## The policy resources -/

/-- `corev1.TypedLocalObjectReference`; `APIGroup` is a pointer. -/
structure TypedLocalObjectReference where
  APIGroup : Option String
  Kind : String
  Name : String
  deriving DecidableEq, Repr

/-- `EgressSourceSpec`. -/
structure EgressSourceSpec where
  Kind : String
  Name : String
  Namespace : String
  MTLS : Option EgressSourceMTLSSpec
  deriving DecidableEq, Repr

/-- `EgressSpec`. -/
structure EgressSpec where
  Sources : List EgressSourceSpec
  Hosts : List String
  IPAddresses : List String
  Ports : List PortSpec
  Matches : List TypedLocalObjectReference
  deriving DecidableEq, Repr

/-- `Egress`. -/
structure Egress where
  Namespace : String
  Name : String
  Spec : EgressSpec
  deriving DecidableEq, Repr

/-- `EgressBindingSubject`. -/
structure EgressBindingSubject where
  Name : String
  Namespace : String
  deriving DecidableEq, Repr

/-- `EgressPolicyGatewayRule`; the gateways it binds are left out. -/
structure EgressPolicyGatewayRule where
  EgressPolicies : List EgressBindingSubject
  deriving DecidableEq, Repr

/-- `EgressGatewaySpec`; of the global gateways only whether the slice is `nil` is read. -/
structure EgressGatewaySpec where
  GlobalEgressGateways : Option (List String)
  EgressPolicyGatewayRules : List EgressPolicyGatewayRule
  deriving DecidableEq, Repr

/-- `EgressGateway`. -/
structure EgressGateway where
  Namespace : String
  Name : String
  Spec : EgressGatewaySpec
  deriving DecidableEq, Repr

/-- The group version of the policy API, `policyv1alpha1.SchemeGroupVersion.String()`. -/
def policyGroupVersion : String := "policy.openservicemesh.io/v1alpha1"

/-- The group version of the SMI specs API, `smiSpecs.SchemeGroupVersion.String()`. -/
def smiSpecsGroupVersion : String := "specs.smi-spec.io/v1alpha4"

/-- `upstreamTrafficSettingKind`. -/
def upstreamTrafficSettingKind : String := "UpstreamTrafficSetting"

/-- `kindSvcAccount` of the policy client. -/
def kindSvcAccount : String := "ServiceAccount"

/-- What the egress builders read of the policy client's informer caches, of the SMI client
    and of the MeshConfig. -/
structure EgressCatalog where
  EnableEgressPolicy : Bool
  egresses : List Egress
  upstreamTrafficSettings : List UpstreamTrafficSetting
  egressGateways : List EgressGateway
  IsMonitoredNamespace : String → Bool
  meshSpec : MeshSpec

namespace EgressCatalog

variable (ec : EgressCatalog)

/-- `ListEgressPoliciesForSourceIdentity`: the Egress policies of monitored namespaces, each
    once for every source that is the service account. -/
def ListEgressPoliciesForSourceIdentity (source : K8sServiceAccount) : List Egress :=
  ec.egresses.flatMap fun egressPolicy =>
    if ec.IsMonitoredNamespace egressPolicy.Namespace then
      (egressPolicy.Spec.Sources.filter fun sourceSpec =>
        sourceSpec.Kind = kindSvcAccount ∧ sourceSpec.Name = source.Name ∧
          sourceSpec.Namespace = source.Namespace).map fun _ => egressPolicy
    else []

/-- `GetUpstreamTrafficSetting` by namespaced name: the cached setting with that key. -/
def GetUpstreamTrafficSetting (ns name : String) : Option UpstreamTrafficSetting :=
  ec.upstreamTrafficSettings.find? fun s => namespacedKey s.Namespace s.Name = namespacedKey ns name

/-- `getUpstreamTrafficSettingForEgress`: the setting of the first reference to an
    UpstreamTrafficSetting, an error when it does not exist. -/
def getUpstreamTrafficSettingForEgress (egressPolicy : Egress) :
    Except String (Option UpstreamTrafficSetting) :=
  match egressPolicy.Spec.Matches.find? (fun m =>
      m.APIGroup = some policyGroupVersion ∧ m.Kind = upstreamTrafficSettingKind) with
  | none => .ok none
  | some m =>
    match ec.GetUpstreamTrafficSetting egressPolicy.Namespace m.Name with
    | some upstreamTrafficSetting => .ok (some upstreamTrafficSetting)
    | none => .error ("UpstreamTrafficSetting " ++ namespacedKey egressPolicy.Namespace m.Name ++
        " specified in Egress policy " ++ egressPolicy.Namespace ++ "/" ++ egressPolicy.Name ++
        " could not be found, ignoring it")

/-- The first rule of the first gateway that binds the policy, as `<ns>.<name>.<index>`. -/
def gatewayRuleFor (egressPolicy : Egress) : List (Nat × EgressGateway) → Option String
  | [] => none
  | (index, egressGateway) :: rest =>
    if egressGateway.Spec.EgressPolicyGatewayRules.any (fun rule => rule.EgressPolicies.any fun egress =>
        equalFold egress.Namespace egressPolicy.Namespace && equalFold egress.Name egressPolicy.Name) then
      some (egressGateway.Namespace ++ "." ++ egressGateway.Name ++ "." ++ toString index)
    else gatewayRuleFor egressPolicy rest

/-- `getGatewayForEgress`: the gateway rule that binds the policy; else `*` when a gateway
    has global gateways; else none. -/
def getGatewayForEgress (egressPolicy : Egress) : Option String :=
  match gatewayRuleFor egressPolicy (List.range ec.egressGateways.length |>.zip ec.egressGateways) with
  | some ruleName => some ruleName
  | none =>
    if ec.egressGateways.any (fun egressGateway => egressGateway.Spec.GlobalEgressGateways.isSome) then
      some "*"
    else none

end EgressCatalog

/-- `getEgressSourceMTLS`: the mTLS spec of the first source that is the service account. -/
def getEgressSourceMTLS (egressPolicy : Egress) (source : K8sServiceAccount) :
    Option EgressSourceMTLSSpec :=
  (egressPolicy.Spec.Sources.find? fun sourceSpec =>
    sourceSpec.Name = source.Name ∧ sourceSpec.Namespace = source.Namespace).bind (·.MTLS)

/-- `getHTTPRouteMatchesFromHTTPRouteGroup`: a regex route per match, the path and the
    methods wildcarded when empty. -/
def getHTTPRouteMatchesFromHTTPRouteGroup (httpRouteGroup : HTTPRouteGroup) : List HTTPRouteMatch :=
  (httpRouteGroup.Matches.getD []).map fun m =>
    { Path := if m.PathRegex = "" then RegexMatchAll else m.PathRegex
      PathMatchType := .PathMatchRegex
      Methods := if m.Methods.length = 0 then [WildcardHTTPMethod] else m.Methods
      Headers := m.Headers }

/-! ## The HTTP route configurations of a port -/

section http

variable (ec : EgressCatalog)

/-- The HTTP route matches of a policy: those of the HTTPRouteGroups it references (a group
    that is not found adds none), or the wildcard route when it references none. -/
def httpRouteMatchesOf (egressPolicy : Egress) : List HTTPRouteMatch :=
  let references := egressPolicy.Spec.Matches.filter fun m =>
    m.APIGroup = some smiSpecsGroupVersion ∧ m.Kind = HTTPRouteGroupKind
  if references.length = 0 then [WildCardRouteMatch]
  else references.flatMap fun m =>
    match ec.meshSpec.GetHTTPRouteGroup (egressPolicy.Namespace ++ "/" ++ m.Name) with
    | some httpRouteGroup => getHTTPRouteMatchesFromHTTPRouteGroup httpRouteGroup
    | none => []

/-- The route configuration of one host of an HTTP port: the host with and without the
    port, a rule per route match to the cluster `<host>:<port>`. -/
def hostRouteConfig (httpRouteMatches : List HTTPRouteMatch) (allowedDestinationIPRanges : List String)
    (port : Int) (host : String) : EgressHTTPRouteConfig :=
  let hostnameWithPort := host ++ ":" ++ toString port
  { Name := host
    Hostnames := [host, hostnameWithPort]
    RoutingRules := httpRouteMatches.map fun m =>
      { Route := { HTTPRouteMatch := m
                   WeightedClusters := {{ ClusterName := hostnameWithPort, Weight := ClusterWeightAcceptAll }} }
        AllowedDestinationIPRanges := allowedDestinationIPRanges } }

/-- `buildHTTPRouteConfigs`: for every host, its route configuration and its cluster. The
    allowed destination ranges are the valid ones, each once. -/
def buildHTTPRouteConfigs (egressPolicy : Egress) (port : Int)
    (upstreamTrafficSetting : Option UpstreamTrafficSetting) (sourceMTLS : Option EgressSourceMTLSSpec) :
    List EgressHTTPRouteConfig × List EgressClusterConfig :=
  let allowedDestinationIPRanges := GoSet.collectNew
    (egressPolicy.Spec.IPAddresses.filter fun ipRange => (Ipv4.parseCIDR ipRange.toList).isSome)
  let httpRouteMatches := httpRouteMatchesOf ec egressPolicy
  (egressPolicy.Spec.Hosts.map (hostRouteConfig httpRouteMatches allowedDestinationIPRanges port),
   egressPolicy.Spec.Hosts.map fun host =>
     { Name := host ++ ":" ++ toString port, Host := host, Port := port
       UpstreamTrafficSetting := upstreamTrafficSetting, SourceMTLS := sourceMTLS })

/-- Every host of the policy has its route configuration, for the host and `<host>:<port>`. -/
theorem Hostnames_buildHTTPRouteConfigs (egressPolicy : Egress) (port : Int)
    (upstreamTrafficSetting : Option UpstreamTrafficSetting) (sourceMTLS : Option EgressSourceMTLSSpec) :
    (buildHTTPRouteConfigs ec egressPolicy port upstreamTrafficSetting sourceMTLS).1.map (·.Hostnames) =
      egressPolicy.Spec.Hosts.map fun host => [host, host ++ ":" ++ toString port] := by
  simp [buildHTTPRouteConfigs, hostRouteConfig, Function.comp_def]

end http

/-! ## `GetEgressTrafficPolicy` -/

/-- The state of the loop over the policies. -/
structure EgressState where
  trafficMatches : List TrafficMatch
  clusterConfigs : List EgressClusterConfig
  portToRouteConfigMap : AList fun _ : Int => List EgressHTTPRouteConfig

section policy

variable (ec : EgressCatalog)

/-- One port of a policy: an `http` port gets its hosts' route configurations and clusters
    and a traffic match on the port; a `tcp`, `tcp-server-first` or `https` port a cluster
    named after the port and a traffic match on the policy's ranges (and, for `https`, its
    hosts as server names); any other protocol nothing. -/
def addEgressPort (egressPolicy : Egress) (upstreamTrafficSetting : Option UpstreamTrafficSetting)
    (egressGateway : Option String) (sourceMTLS : Option EgressSourceMTLSSpec) (st : EgressState)
    (portSpec : PortSpec) : EgressState :=
  let protocol := toLower portSpec.Protocol
  let trafficMatch : TrafficMatch :=
    { Name := GetEgressTrafficMatchName portSpec.Number portSpec.Protocol
      DestinationPort := portSpec.Number, DestinationProtocol := portSpec.Protocol
      EgressGateWay := egressGateway }
  let portCluster : EgressClusterConfig :=
    { Name := toString portSpec.Number, Host := "", Port := portSpec.Number
      UpstreamTrafficSetting := upstreamTrafficSetting, SourceMTLS := sourceMTLS }
  if protocol = ProtocolHTTP then
    let (httpRouteConfigs, httpClusterConfigs) :=
      buildHTTPRouteConfigs ec egressPolicy portSpec.Number upstreamTrafficSetting sourceMTLS
    { portToRouteConfigMap := GoMap.appendAt st.portToRouteConfigMap portSpec.Number httpRouteConfigs
      clusterConfigs := st.clusterConfigs ++ httpClusterConfigs
      trafficMatches := st.trafficMatches ++ [trafficMatch] }
  else if protocol = ProtocolTCP ∨ protocol = ProtocolTCPServerFirst then
    { st with
      clusterConfigs := st.clusterConfigs ++ [portCluster]
      trafficMatches := st.trafficMatches ++
        [{ trafficMatch with DestinationIPRanges := egressPolicy.Spec.IPAddresses
                             Cluster := toString portSpec.Number }] }
  else if protocol = ProtocolHTTPS then
    { st with
      clusterConfigs := st.clusterConfigs ++ [portCluster]
      trafficMatches := st.trafficMatches ++
        [{ trafficMatch with DestinationIPRanges := egressPolicy.Spec.IPAddresses
                             ServerNames := egressPolicy.Spec.Hosts
                             Cluster := toString portSpec.Number }] }
  else st

/-- One policy of the loop: skipped when its UpstreamTrafficSetting is missing, else each
    of its ports. -/
def addEgress (source : K8sServiceAccount) (st : EgressState) (egressPolicy : Egress) : EgressState :=
  match ec.getUpstreamTrafficSettingForEgress egressPolicy with
  | .error _ => st
  | .ok upstreamTrafficSetting =>
    egressPolicy.Spec.Ports.foldl
      (addEgressPort ec egressPolicy upstreamTrafficSetting (ec.getGatewayForEgress egressPolicy)
        (getEgressSourceMTLS egressPolicy source)) st

/-- `GetEgressTrafficPolicy`: none with the feature off; a panic for an identity without a
    dot; otherwise the policy of the listed Egress policies, its traffic matches and
    clusters deduplicated. -/
def GetEgressTrafficPolicy (dd : Dedup) (serviceIdentity : ServiceIdentity) :
    Except String (Option EgressTrafficPolicy) :=
  if !ec.EnableEgressPolicy then .ok none
  else
    match serviceIdentity.ToK8sServiceAccount with
    | .error e => .error e
    | .ok source =>
      let st := (ec.ListEgressPoliciesForSourceIdentity source).foldl (addEgress ec source) ⟨[], [], ∅⟩
      .ok (some { HTTPRouteConfigsPerPort := st.portToRouteConfigMap
                  TrafficMatches := DeduplicateTrafficMatches dd st.trafficMatches
                  ClustersConfigs := DeduplicateClusterConfigs dd st.clusterConfigs })

/-- Whether a port is an HTTP port with this number. -/
def isHTTPPortOn (port : Int) (portSpec : PortSpec) : Bool :=
  toLower portSpec.Protocol = ProtocolHTTP ∧ portSpec.Number = port

/-- What a policy appends to the route configurations of a port: for each of its HTTP
    ports with the number, its hosts' configurations; nothing when it is skipped. -/
def routeConfigsOn (source : K8sServiceAccount) (port : Int) (egressPolicy : Egress) :
    List EgressHTTPRouteConfig :=
  match ec.getUpstreamTrafficSettingForEgress egressPolicy with
  | .error _ => []
  | .ok upstreamTrafficSetting =>
    (egressPolicy.Spec.Ports.filter (isHTTPPortOn port)).flatMap fun _ =>
      (buildHTTPRouteConfigs ec egressPolicy port upstreamTrafficSetting
        (getEgressSourceMTLS egressPolicy source)).1

/-- Step lemma, for one port: an HTTP port with the number appends its hosts'
    configurations to the port's slice; any other port leaves it. -/
theorem lookup_addEgressPort (egressPolicy : Egress) (upstreamTrafficSetting : Option UpstreamTrafficSetting)
    (egressGateway : Option String) (sourceMTLS : Option EgressSourceMTLSSpec) (port : Int)
    (st : EgressState) (portSpec : PortSpec) :
    ((addEgressPort ec egressPolicy upstreamTrafficSetting egressGateway sourceMTLS st portSpec).portToRouteConfigMap.lookup port).getD [] =
      (st.portToRouteConfigMap.lookup port).getD [] ++
        if isHTTPPortOn port portSpec then
          (buildHTTPRouteConfigs ec egressPolicy port upstreamTrafficSetting sourceMTLS).1
        else [] := by
  unfold addEgressPort isHTTPPortOn
  by_cases hhttp : toLower portSpec.Protocol = ProtocolHTTP
  · -- the port's slice grows exactly when the numbers agree
    by_cases hport : portSpec.Number = port
    · subst hport
      simp [hhttp, GoMap.lookup_appendAt]
    · simp [hhttp, GoMap.lookup_appendAt, Ne.symm hport, hport]
  · -- a TCP, HTTPS or unknown port writes no route configuration
    simp only [hhttp, if_false, false_and, decide_false, Bool.false_eq_true, List.append_nil]
    split_ifs <;> rfl

/-- Step lemma, for one policy: it appends what `routeConfigsOn` says. -/
theorem lookup_addEgress (source : K8sServiceAccount) (port : Int) (st : EgressState)
    (egressPolicy : Egress) :
    ((addEgress ec source st egressPolicy).portToRouteConfigMap.lookup port).getD [] =
      (st.portToRouteConfigMap.lookup port).getD [] ++ routeConfigsOn ec source port egressPolicy := by
  unfold addEgress routeConfigsOn
  split
  · simp
  · -- the ports loop appends for the HTTP ports with the number
    rename_i upstreamTrafficSetting _
    exact ExceptLoop.foldl_appends_filter (fun st : EgressState => (st.portToRouteConfigMap.lookup port).getD [])
      _ (isHTTPPortOn port) _ (lookup_addEgressPort ec egressPolicy upstreamTrafficSetting _ _ port) _ st

/-- Run lemma: the route configurations of a port are, in order, those that each listed
    policy appends, with no deduplication. -/
theorem lookup_HTTPRouteConfigsPerPort (dd : Dedup) (serviceIdentity : ServiceIdentity)
    (source : K8sServiceAccount) (hsource : serviceIdentity.ToK8sServiceAccount = .ok source)
    (henable : ec.EnableEgressPolicy = true) (port : Int) :
    ∃ egressPolicy, GetEgressTrafficPolicy ec dd serviceIdentity = .ok (some egressPolicy) ∧
      (egressPolicy.HTTPRouteConfigsPerPort.lookup port).getD [] =
        (ec.ListEgressPoliciesForSourceIdentity source).flatMap (routeConfigsOn ec source port) := by
  refine ⟨_, by simp [GetEgressTrafficPolicy, henable, hsource]; rfl, ?_⟩
  rw [ExceptLoop.foldl_appends (fun st : EgressState => (st.portToRouteConfigMap.lookup port).getD [])
    _ _ (lookup_addEgress ec source port)]
  simp

end policy

end OsmEdge.Catalog
