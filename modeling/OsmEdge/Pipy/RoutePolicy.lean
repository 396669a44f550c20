import OsmEdge.Pipy.Mesh
import OsmEdge.Catalog.OutboundRoutes
import OsmEdge.Lib.ExceptLoop

/-
  The outbound part of the Pipy configuration (`OutboundTrafficPolicy`,
  `pkg/sidecar/providers/pipy/repo/types.go`), the generator that fills it from the outbound
  mesh traffic policy (`generatePipyOutboundTrafficRoutePolicy`, `util.go`) and the one that
  then gives its clusters their configuration (`generatePipyOutboundTrafficBalancePolicy`).

  A traffic match lives in a map under `<port>=<name>`, and the port's slice holds a pointer
  to it; every HTTP or gRPC traffic match of a port is named `http`, so all of them fill one
  Pipy traffic match. For each route configuration `getOutboundHTTPRouteConfigs` returns,
  the generator writes a rule set named after the configuration, maps its host names to that
  name, and adds a route rule for every route: the rule of the route's match rule, a new one
  if there is none, gets the route's clusters. Each cluster a route, or a TCP traffic match,
  names is recorded once, the first time, with the retry policy of the route
  (`dependClusters`), and the balance generator gives the cluster's configuration that retry
  policy.

  So the route rules of a rule set are described by the routes read for it
  (`RulesDescribe`), whatever the order of the traffic matches, and the generator keeps that
  description (`generatePipyOutboundTrafficRoutePolicy_describes`). The retry policy of a
  cluster is the policy of the first route, in the order the generator reads them, that names
  the cluster (`pipy_cluster_retry_first_route`): Envoy gives each route its own retry policy,
  Pipy one per cluster.

  The generator runs first on the outbound part, which is nil before it. A panic is an error:
  a traffic match name the generator cannot read as a service, a rule set of an empty name,
  a plugin lookup on a short name, a retry policy without its durations (which the API
  server's schema requires). Left out: the egress gateway fields, the connection settings and
  the source certificate of a cluster, and the retry of the job when a cluster has no
  endpoints (`Run` publishes the configuration anyway).
-/

namespace OsmEdge.Pipy.Outbound

open OsmEdge.Trafficpolicy OsmEdge.Catalog OsmEdge.Service OsmEdge.Constants GoText ExceptLoop

/-! ## The configuration -/

/-- `OutboundHTTPRouteRule`: the embedded `HTTPRouteRule` in the fields the outbound generator
    writes; it allows no services. -/
structure OutboundHTTPRouteRule where
  HTTPMatchRule : HTTPMatchRule
  TargetClusters : AList fun _ : String => UInt32

/-- `OutboundHTTPRouteRules`; the egress gateway, which only the egress generator sets, is
    left out. -/
structure OutboundHTTPRouteRules where
  RouteRules : List OutboundHTTPRouteRule
  ServiceIdentity : String
  Plugins : AList fun _ : String => String

/-- `OutboundTCPServiceRouteRules`; the egress fields are left out. -/
structure OutboundTCPServiceRouteRules where
  TargetClusters : AList fun _ : String => UInt32
  Plugins : AList fun _ : String => String

/-- `OutboundTrafficMatch`, all of it (`Pipy.OutboundTrafficMatch` is the same struct in the
    field its sort reads). A destination range maps to a nil security spec here, so the ranges
    are a set. -/
structure OutboundTrafficMatch where
  DestinationIPRanges : Finset String
  Port : UInt16
  Protocol : String
  HTTPHostPort2Service : AList fun _ : String => String
  HTTPServiceRouteRules : AList fun _ : String => OutboundHTTPRouteRules
  TCPServiceRouteRules : Option OutboundTCPServiceRouteRules

/-- The configuration's `RetryPolicy`; a duration is its nanoseconds (the configuration
    writes seconds). -/
structure RetryPolicy where
  RetryOn : String
  PerTryTimeout : Int
  NumRetries : Option UInt32
  RetryBackoffBaseInterval : Int
  deriving DecidableEq

/-- `WeightedZoneEndpoint`. -/
structure WeightedZoneEndpoint where
  Weight : UInt32
  Cluster : String
  LBType : String
  ContextPath : String
  deriving DecidableEq

/-- `ClusterConfigs`: the endpoints, nil before the first, and the retry policy. -/
structure ClusterConfigs where
  Endpoints : Option (AList fun _ : String => WeightedZoneEndpoint)
  RetryPolicy : Option RetryPolicy

/-- `OutboundTrafficPolicy`. A traffic match lives in `namedTrafficMatches` under
    `<port>=<name>`; `TrafficMatches` holds for each port the pointers to its traffic
    matches, here their names, in the order they were made. -/
structure OutboundTrafficPolicy where
  namedTrafficMatches : AList fun _ : String => OutboundTrafficMatch
  TrafficMatches : AList fun _ : UInt16 => List String
  ClustersConfigs : AList fun _ : String => ClusterConfigs

/-- Pipy's `WeightedCluster`: a cluster with the retry policy of the route that named it. -/
structure WeightedCluster extends Trafficpolicy.WeightedCluster where
  RetryPolicy : Option RetryPolicySpec
  deriving DecidableEq

/-- `endpoint.Endpoint`, in the fields the balance generator reads; the IP is its text. -/
structure Endpoint where
  IP : String
  Weight : UInt32
  ClusterKey : String
  LBType : String
  Path : String

/-! ## The methods that fill it -/

/-- `HTTPRouteRule.addWeightedCluster`. -/
def OutboundHTTPRouteRule.addWeightedCluster (r : OutboundHTTPRouteRule) (clusterName : String)
    (weight : UInt32) : OutboundHTTPRouteRule :=
  { r with TargetClusters := r.TargetClusters.insert clusterName weight }

/-- The clusters loop of a route: each added to the route rule with its weight. -/
def OutboundHTTPRouteRule.addWeightedClusters (hsrr : OutboundHTTPRouteRule)
    (wcs : List WeightedCluster) : OutboundHTTPRouteRule :=
  wcs.foldl (fun hsrr wc => hsrr.addWeightedCluster wc.ClusterName (UInt32.ofInt wc.Weight)) hsrr

/-- `OutboundTCPServiceRouteRules.addWeightedCluster`. -/
def OutboundTCPServiceRouteRules.addWeightedCluster (srr : OutboundTCPServiceRouteRules)
    (clusterName : String) (weight : UInt32) : OutboundTCPServiceRouteRules :=
  { srr with TargetClusters := srr.TargetClusters.insert clusterName weight }

namespace OutboundHTTPRouteRules

/-- `newHTTPServiceRouteRule`: the index of the first rule whose match rule is deeply equal
    to `matchRule`, and `true`; or a new rule appended, its index, and `false`. -/
def newHTTPServiceRouteRule (hrrs : OutboundHTTPRouteRules) (matchRule : HTTPMatchRule) :
    OutboundHTTPRouteRules × Nat × Bool :=
  match hrrs.RouteRules.findIdx? (fun r => decide (r.HTTPMatchRule = matchRule)) with
  | some i => (hrrs, i, true)
  | none => ({ hrrs with RouteRules := hrrs.RouteRules ++ [⟨matchRule, ∅⟩] }, hrrs.RouteRules.length, false)

/-- A change through the pointer to rule `i`. -/
def modifyRule (hrrs : OutboundHTTPRouteRules) (i : Nat)
    (f : OutboundHTTPRouteRule → OutboundHTTPRouteRule) : OutboundHTTPRouteRules :=
  { hrrs with RouteRules := hrrs.RouteRules.modify i f }

end OutboundHTTPRouteRules

namespace OutboundTrafficMatch

/-- `new(OutboundTrafficMatch)`. -/
def empty : OutboundTrafficMatch := ⟨∅, 0, "", ∅, ∅, none⟩

/-- `setProtocol`: lowered, with `tcp-server-first` served as `tcp`. -/
def setProtocol (tm : OutboundTrafficMatch) (protocol : String) : OutboundTrafficMatch :=
  let protocol := toLower protocol
  { tm with Protocol := if ProtocolTCPServerFirst = protocol then ProtocolTCP else protocol }

/-- `setPort`. -/
def setPort (tm : OutboundTrafficMatch) (port : UInt16) : OutboundTrafficMatch :=
  { tm with Port := port }

/-- `addDestinationIPRange` with a nil spec: the range is added unless it is there. -/
def addDestinationIPRange (tm : OutboundTrafficMatch) (ipRange : String) : OutboundTrafficMatch :=
  { tm with DestinationIPRanges := insert ipRange tm.DestinationIPRanges }

/-- `addHTTPHostPort2Service`. -/
def addHTTPHostPort2Service (tm : OutboundTrafficMatch) (hostPort ruleName : String) :
    OutboundTrafficMatch :=
  { tm with HTTPHostPort2Service := tm.HTTPHostPort2Service.insert hostPort ruleName }

/-- `newHTTPServiceRouteRules`: nil for an empty name, else the rules of that name, new
    ones if there are none yet. -/
def newHTTPServiceRouteRules (tm : OutboundTrafficMatch) (httpRouteRuleName : String) :
    Option OutboundHTTPRouteRules :=
  if httpRouteRuleName.length = 0 then none
  else some ((tm.HTTPServiceRouteRules.lookup httpRouteRuleName).getD ⟨[], "", ∅⟩)

/-- Writing the route rules of a name back. -/
def setRouteRules (tm : OutboundTrafficMatch) (httpRouteRuleName : String)
    (hrrs : OutboundHTTPRouteRules) : OutboundTrafficMatch :=
  { tm with HTTPServiceRouteRules := tm.HTTPServiceRouteRules.insert httpRouteRuleName hrrs }

/-- `newTCPServiceRouteRules`: the TCP route rules, new ones if there are none. -/
def newTCPServiceRouteRules (tm : OutboundTrafficMatch) : OutboundTCPServiceRouteRules :=
  tm.TCPServiceRouteRules.getD ⟨∅, ∅⟩

/-- Writing the TCP route rules back. -/
def setTCPServiceRouteRules (tm : OutboundTrafficMatch) (tsrr : OutboundTCPServiceRouteRules) :
    OutboundTrafficMatch :=
  { tm with TCPServiceRouteRules := some tsrr }

end OutboundTrafficMatch

/-- The name of a traffic match in `namedTrafficMatches`, `fmt.Sprintf("%d=%s", port, name)`. -/
def namedPort (port : UInt16) (name : String) : String :=
  toString port ++ "=" ++ name

namespace OutboundTrafficPolicy

/-- `new(OutboundTrafficPolicy)`. -/
def empty : OutboundTrafficPolicy := ⟨∅, ∅, ∅⟩

/-- The traffic match of a name, a new one where there is none. -/
def getTrafficMatch (otp : OutboundTrafficPolicy) (name : String) : OutboundTrafficMatch :=
  (otp.namedTrafficMatches.lookup name).getD .empty

/-- `newTrafficMatch`: the traffic match named `<port>=<name>` and `true`; or a new one put
    under that name and appended to the port's slice, and `false`. -/
def newTrafficMatch (otp : OutboundTrafficPolicy) (port : UInt16) (name : String) :
    OutboundTrafficPolicy × OutboundTrafficMatch × Bool :=
  match otp.namedTrafficMatches.lookup (namedPort port name) with
  | some trafficMatch => (otp, trafficMatch, true)
  | none =>
    ({ otp with
        namedTrafficMatches := otp.namedTrafficMatches.insert (namedPort port name) .empty
        TrafficMatches := GoMap.appendAt otp.TrafficMatches port [namedPort port name] },
      .empty, false)

/-- A write through the pointer to the traffic match of a name. -/
def setTrafficMatch (otp : OutboundTrafficPolicy) (name : String) (tm : OutboundTrafficMatch) :
    OutboundTrafficPolicy :=
  { otp with namedTrafficMatches := otp.namedTrafficMatches.insert name tm }

/-- `newClusterConfigs`: the configuration of a cluster, a new one if there is none. -/
def newClusterConfigs (otp : OutboundTrafficPolicy) (clusterName : String) : ClusterConfigs :=
  (otp.ClustersConfigs.lookup clusterName).getD ⟨none, none⟩

/-- Writing a cluster's configuration back. -/
def setClusterConfigs (otp : OutboundTrafficPolicy) (clusterName : String) (cc : ClusterConfigs) :
    OutboundTrafficPolicy :=
  { otp with ClustersConfigs := otp.ClustersConfigs.insert clusterName cc }

end OutboundTrafficPolicy

/-- `WeightedEndpoints.addWeightedZoneEndpoint`: an address that carries its port is the key
    as it is; any other address gets the port appended. -/
def addWeightedZoneEndpoint (wes : AList fun _ : String => WeightedZoneEndpoint) (address : String)
    (port : UInt16) (weight : UInt32) (cluster lbType contextPath : String) :
    AList fun _ : String => WeightedZoneEndpoint :=
  let wze : WeightedZoneEndpoint := ⟨weight, cluster, lbType, contextPath⟩
  if addrWithPort address.toList then wes.insert address wze
  else wes.insert (address ++ ":" ++ toString port) wze

/-- `ClusterConfigs.addWeightedZoneEndpoint`: the endpoints made on the first. -/
def ClusterConfigs.addWeightedZoneEndpoint (cc : ClusterConfigs) (address : String) (port : UInt16)
    (weight : UInt32) (cluster lbType contextPath : String) : ClusterConfigs :=
  { cc with Endpoints := some (Outbound.addWeightedZoneEndpoint (cc.Endpoints.getD ∅) address port
      weight cluster lbType contextPath) }

/-- The retry policy a spec is written as, when it has both durations. -/
def RetryPolicy.ofSpec? (retryPolicy : RetryPolicySpec) : Option RetryPolicy :=
  match retryPolicy.PerTryTimeout, retryPolicy.RetryBackoffBaseInterval with
  | some perTryTimeout, some retryBackoffBaseInterval =>
    some ⟨retryPolicy.RetryOn, perTryTimeout, retryPolicy.NumRetries, retryBackoffBaseInterval⟩
  | _, _ => none

/-- `ClusterConfigs.setRetryPolicy` on a policy that is there: its durations are dereferenced,
    so a policy without one panics. -/
def ClusterConfigs.setRetryPolicy (cc : ClusterConfigs) (retryPolicy : RetryPolicySpec) :
    Except String ClusterConfigs :=
  match RetryPolicy.ofSpec? retryPolicy with
  | some rp => .ok { cc with RetryPolicy := some rp }
  | none => .error errNilDereference

/-- The first cluster of a name that is recorded stays (`dependClusters`). -/
def addDependCluster (dependClusters : AList fun _ : String => WeightedCluster)
    (weightedCluster : WeightedCluster) : AList fun _ : String => WeightedCluster :=
  if weightedCluster.ClusterName ∈ dependClusters then dependClusters
  else dependClusters.insert weightedCluster.ClusterName weightedCluster

/-! ## The route generator -/

/-- `arrayEqual`: the list and the set have the same length and each has every cluster of the
    other, by name and weight. -/
def arrayEqual (it : Rds.MapOrder) (a : List Trafficpolicy.WeightedCluster)
    (set : Finset Trafficpolicy.WeightedCluster) : Bool :=
  let b := it.clusters.enum set
  a.length == b.length &&
    a.all (fun ca => b.any fun cb => ca.ClusterName == cb.ClusterName && ca.Weight == cb.Weight) &&
    b.all (fun cb => a.any fun ca => cb.ClusterName == ca.ClusterName && cb.Weight == ca.Weight)

section generator

variable (it : Rds.MapOrder) (pipyConf : PipyConf) (proxyIdentity : String)
  (httpRouteConfigsPerPort : AList fun _ : Int => List Trafficpolicy.OutboundTrafficPolicy)

/-- `getOutboundHTTPRouteConfigs`: the policies of the port named for the service that have a
    route to exactly the traffic match's clusters. -/
def getOutboundHTTPRouteConfigs (targetPort : Int) (upstreamSvcFQDN : String)
    (weightedClusters : List Trafficpolicy.WeightedCluster) : List Trafficpolicy.OutboundTrafficPolicy :=
  match httpRouteConfigsPerPort.lookup targetPort with
  | some trafficPolicies =>
    trafficPolicies.filter fun trafficPolicy =>
      trafficPolicy.Name = upstreamSvcFQDN &&
        trafficPolicy.Routes.any fun route => arrayEqual it weightedClusters route.WeightedClusters
  | none => []

/-- The route configurations the generator reads for an HTTP-like traffic match of a
    service. -/
def httpRouteConfigsOf (trafficMatch : TrafficMatch) (upstreamSvc : MeshService) :
    List Trafficpolicy.OutboundTrafficPolicy :=
  getOutboundHTTPRouteConfigs it httpRouteConfigsPerPort upstreamSvc.TargetPort.toNat upstreamSvc.FQDN
    trafficMatch.WeightedClusters

/-- The clusters of a route in set order, each with the route's retry policy. -/
def routeClusters (route : OutboundRoute) : List WeightedCluster :=
  (it.clusters.enum route.WeightedClusters).map fun serviceCluster =>
    { toWeightedCluster := serviceCluster, RetryPolicy := route.RetryPolicy }

/-- The body of the routes loop: the route rule of the route's match rule, a new one if there
    is none, gets the route's clusters through its pointer, and every cluster is recorded.
    The two writes touch different maps, so they are two loops over the clusters here. -/
def addHTTPRoute (acc : OutboundHTTPRouteRules × AList fun _ : String => WeightedCluster)
    (route : OutboundRoute) : OutboundHTTPRouteRules × AList fun _ : String => WeightedCluster :=
  let found := acc.1.newHTTPServiceRouteRule (httpMatchOf route.toRouteWeightedClusters)
  (found.1.modifyRule found.2.1 (·.addWeightedClusters (routeClusters it route)),
    (routeClusters it route).foldl addDependCluster acc.2)

/-- The body of the route configurations loop of an HTTP or gRPC traffic match. A rule set
    of an empty name is nil, and setting its service identity panics. -/
def addHTTPRouteConfig (trafficMatch : TrafficMatch)
    (acc : OutboundTrafficMatch × AList fun _ : String => WeightedCluster)
    (httpRouteConfig : Trafficpolicy.OutboundTrafficPolicy) :
    Except String (OutboundTrafficMatch × AList fun _ : String => WeightedCluster) :=
  let ruleName := httpRouteConfig.Name
  match acc.1.newHTTPServiceRouteRules ruleName with
  | none => .error errNilDereference
  | some hsrrs =>
    (pipyConf.getTrafficMatchPluginConfigs trafficMatch.Name).map fun plugins =>
      let hsrrs := { hsrrs with ServiceIdentity := proxyIdentity, Plugins := plugins }
      let tm := httpRouteConfig.Hostnames.foldl (fun tm hostname => tm.addHTTPHostPort2Service hostname ruleName) acc.1
      let routed := httpRouteConfig.Routes.foldl (addHTTPRoute it) (hsrrs, acc.2)
      (tm.setRouteRules ruleName routed.1, routed.2)

/-- The clusters of every route of an HTTPS traffic match's route configurations go to its
    TCP route rules. -/
def addHTTPSRouteConfigs (httpRouteConfigs : List Trafficpolicy.OutboundTrafficPolicy)
    (acc : OutboundTCPServiceRouteRules × AList fun _ : String => WeightedCluster) :
    OutboundTCPServiceRouteRules × AList fun _ : String => WeightedCluster :=
  httpRouteConfigs.foldl (fun acc httpRouteConfig =>
    httpRouteConfig.Routes.foldl (fun acc route =>
      (routeClusters it route).foldl (fun acc wc =>
        (acc.1.addWeightedCluster wc.ClusterName (UInt32.ofInt wc.Weight), addDependCluster acc.2 wc))
        acc) acc) acc

/-- What a traffic match adds to its Pipy traffic match and to the recorded clusters, by its
    lowered protocol. -/
def routeTrafficMatch (trafficMatch : TrafficMatch) (destinationProtocol : String)
    (tm : OutboundTrafficMatch) (dependClusters : AList fun _ : String => WeightedCluster) :
    Except String (OutboundTrafficMatch × AList fun _ : String => WeightedCluster) :=
  if destinationProtocol = ProtocolHTTP ∨ destinationProtocol = ProtocolGRPC then
    -- `upstreamSvc.FQDN()` dereferences the service
    match trafficMatchToMeshSvc trafficMatch with
    | none => .error errNilDereference
    | some upstreamSvc =>
      (httpRouteConfigsOf it httpRouteConfigsPerPort trafficMatch upstreamSvc).foldlM
        (addHTTPRouteConfig it pipyConf proxyIdentity trafficMatch) (tm, dependClusters)
  else if destinationProtocol = ProtocolTCP ∨ destinationProtocol = ProtocolTCPServerFirst then
    (pipyConf.getTrafficMatchPluginConfigs trafficMatch.Name).map fun plugins =>
      let tsrr := { tm.newTCPServiceRouteRules with Plugins := plugins }
      let routed := trafficMatch.WeightedClusters.foldl (fun acc serviceCluster =>
        (acc.1.addWeightedCluster serviceCluster.ClusterName (UInt32.ofInt serviceCluster.Weight),
          addDependCluster acc.2 { toWeightedCluster := serviceCluster, RetryPolicy := none }))
        (tsrr, dependClusters)
      (tm.setTCPServiceRouteRules routed.1, routed.2)
  else if destinationProtocol = ProtocolHTTPS then
    match trafficMatchToMeshSvc trafficMatch with
    | none => .error errNilDereference
    | some upstreamSvc =>
      let httpRouteConfigs := httpRouteConfigsOf it httpRouteConfigsPerPort trafficMatch upstreamSvc
      if httpRouteConfigs.length = 0 then .ok (tm, dependClusters)
      else
        (pipyConf.getTrafficMatchPluginConfigs trafficMatch.Name).map fun plugins =>
          let tsrr := { tm.newTCPServiceRouteRules with Plugins := plugins }
          let routed := addHTTPSRouteConfigs it httpRouteConfigs (tsrr, dependClusters)
          (tm.setTCPServiceRouteRules routed.1, routed.2)
  else .ok (tm, dependClusters)

/-- Whether a lowered protocol is served by HTTP route rules. -/
def isHTTPRouted (destinationProtocol : String) : Bool :=
  destinationProtocol = ProtocolHTTP || destinationProtocol = ProtocolGRPC

/-- The name of the Pipy traffic match a traffic match fills: `http` for HTTP and gRPC. -/
def pipyTrafficMatchName (trafficMatch : TrafficMatch) : String :=
  namedPort (UInt16.ofInt trafficMatch.DestinationPort)
    (if isHTTPRouted (toLower trafficMatch.DestinationProtocol) then ProtocolHTTP else trafficMatch.Name)

/-- One iteration of the traffic matches loop: the Pipy traffic match of the port and name,
    set up when new, gets the destination ranges and what the protocol adds. -/
def addTrafficMatch (acc : OutboundTrafficPolicy × AList fun _ : String => WeightedCluster)
    (trafficMatch : TrafficMatch) :
    Except String (OutboundTrafficPolicy × AList fun _ : String => WeightedCluster) :=
  let destinationProtocol := toLower trafficMatch.DestinationProtocol
  let trafficMatchName := if isHTTPRouted destinationProtocol then ProtocolHTTP else trafficMatch.Name
  let port := UInt16.ofInt trafficMatch.DestinationPort
  let made := acc.1.newTrafficMatch port trafficMatchName
  let exist := made.2.2
  let tm := if exist then made.2.1 else (made.2.1.setProtocol destinationProtocol).setPort port
  let tm := trafficMatch.DestinationIPRanges.foldl OutboundTrafficMatch.addDestinationIPRange tm
  (routeTrafficMatch it pipyConf proxyIdentity httpRouteConfigsPerPort trafficMatch destinationProtocol
      tm acc.2).map fun routed =>
    (made.1.setTrafficMatch (namedPort port trafficMatchName) routed.1, routed.2)

/-- `generatePipyOutboundTrafficRoutePolicy`: the outbound part of the configuration, nil
    when there is no traffic match, and the recorded clusters. -/
def generatePipyOutboundTrafficRoutePolicy (trafficMatches : List TrafficMatch) :
    Except String (Option OutboundTrafficPolicy × AList fun _ : String => WeightedCluster) :=
  if trafficMatches.length = 0 then .ok (none, ∅)
  else
    (trafficMatches.foldlM (addTrafficMatch it pipyConf proxyIdentity httpRouteConfigsPerPort)
      (.empty, ∅)).map fun routed => (some routed.1, routed.2)

end generator

/-! ## The balance generator -/

section balance

variable (E : GoSet.Enumerator String) (clustersConfigs : List MeshClusterConfig)
  (upstreamEndpoints : String → List Endpoint)

/-- The body of the endpoints loop: the endpoint at the service's port, or at its target
    port for an endpoint of another cluster, and the cluster's retry policy when it has
    one. -/
def addUpstreamEndpoint (clusterConfig : MeshClusterConfig) (cluster : WeightedCluster)
    (cc : ClusterConfigs) (upstreamEndpoint : Endpoint) : Except String ClusterConfigs :=
  let port := if upstreamEndpoint.ClusterKey.length > 0 ∧ clusterConfig.Service.TargetPort > 0 then
    clusterConfig.Service.TargetPort else clusterConfig.Service.Port
  let cc := cc.addWeightedZoneEndpoint upstreamEndpoint.IP port upstreamEndpoint.Weight
    upstreamEndpoint.ClusterKey upstreamEndpoint.LBType upstreamEndpoint.Path
  match cluster.RetryPolicy with
  | some retryPolicy => cc.setRetryPolicy retryPolicy
  | none => .ok cc

/-- The body of the loop over the recorded clusters: a cluster without a mesh cluster
    configuration or without endpoints makes the policy not ready; the latter still gets its
    configuration made. -/
def addDependClusterConfig (acc : OutboundTrafficPolicy × Bool) (cluster : WeightedCluster) :
    Except String (OutboundTrafficPolicy × Bool) :=
  match getMeshClusterConfigs clustersConfigs cluster.ClusterName with
  | none => .ok (acc.1, false)
  | some clusterConfig =>
    let cc := acc.1.newClusterConfigs cluster.ClusterName
    let eps := upstreamEndpoints cluster.ClusterName
    if eps.length = 0 then .ok (acc.1.setClusterConfigs cluster.ClusterName cc, false)
    else
      (eps.foldlM (addUpstreamEndpoint clusterConfig cluster) cc).map fun cc =>
        (acc.1.setClusterConfigs cluster.ClusterName cc, acc.2)

/-- `generatePipyOutboundTrafficBalancePolicy`: the recorded clusters in map order; the policy
    and whether it is ready. -/
def generatePipyOutboundTrafficBalancePolicy (otp : OutboundTrafficPolicy)
    (dependClusters : AList fun _ : String => WeightedCluster) :
    Except String (OutboundTrafficPolicy × Bool) :=
  ((GoMap.range E dependClusters).map (·.2)).foldlM
    (addDependClusterConfig clustersConfigs upstreamEndpoints) (otp, true)

variable (it : Rds.MapOrder) (pipyConf : PipyConf) (proxyIdentity : String)
  (httpRouteConfigsPerPort : AList fun _ : Int => List Trafficpolicy.OutboundTrafficPolicy)

/-- The outbound step of the job (`outbound`, `jobs.go`): the route generator, then the
    balance generator when a cluster was recorded. Whether the policy is ready is not read
    by `Run`. -/
def outbound (trafficMatches : List TrafficMatch) : Except String (Option OutboundTrafficPolicy) := do
  let (otp, dependClusters) ← generatePipyOutboundTrafficRoutePolicy it pipyConf proxyIdentity
    httpRouteConfigsPerPort trafficMatches
  match otp with
  | some otp =>
    if dependClusters.entries.length > 0 then
      (generatePipyOutboundTrafficBalancePolicy E clustersConfigs upstreamEndpoints otp
        dependClusters).map fun (otp, _) => some otp
    else .ok (some otp)
  | none => .ok none

end balance

/-! ## The route rules of a rule set -/

/-- What the route rules of a rule set are, given the routes `P` read into it: one rule for
    each match rule of those routes, and a rule's clusters are those of the routes with its
    match rule. -/
structure RulesDescribe (rules : List OutboundHTTPRouteRule) (P : OutboundRoute → Prop) : Prop where
  nodup : (rules.map (·.HTTPMatchRule)).Nodup
  mem_matches : ∀ m, m ∈ rules.map (·.HTTPMatchRule) ↔
    ∃ route, P route ∧ httpMatchOf route.toRouteWeightedClusters = m
  mem_clusters : ∀ r ∈ rules, ∀ c, c ∈ r.TargetClusters ↔
    ∃ route, P route ∧ httpMatchOf route.toRouteWeightedClusters = r.HTTPMatchRule ∧
      ∃ wc ∈ route.WeightedClusters, wc.ClusterName = c

namespace RulesDescribe

variable {rules : List OutboundHTTPRouteRule} {P P' : OutboundRoute → Prop}

theorem of_iff (hd : RulesDescribe rules P) (h : ∀ route, P route ↔ P' route) :
    RulesDescribe rules P' where
  nodup := hd.nodup
  mem_matches m := by simpa only [h] using hd.mem_matches m
  mem_clusters r hr c := by simpa only [h] using hd.mem_clusters r hr c

/-- No routes, no rules. -/
theorem nil (h : ∀ route, ¬ P route) : RulesDescribe [] P where
  nodup := List.nodup_nil
  mem_matches m := by simp [h]
  mem_clusters r hr := absurd hr List.not_mem_nil

/-- Reordering the rules keeps what they are. -/
theorem perm (hd : RulesDescribe rules P) {rules' : List OutboundHTTPRouteRule}
    (hp : rules.Perm rules') : RulesDescribe rules' P where
  nodup := (hp.map _).nodup_iff.mp hd.nodup
  mem_matches m := by rw [← (hp.map _).mem_iff]; exact hd.mem_matches m
  mem_clusters r hr := hd.mem_clusters r (hp.mem_iff.mpr hr)

end RulesDescribe

@[simp] theorem HTTPMatchRule_addWeightedClusters (hsrr : OutboundHTTPRouteRule)
    (wcs : List WeightedCluster) : (hsrr.addWeightedClusters wcs).HTTPMatchRule = hsrr.HTTPMatchRule :=
  foldl_keeps (·.HTTPMatchRule)
    (fun hsrr wc => hsrr.addWeightedCluster wc.ClusterName (UInt32.ofInt wc.Weight)) (fun _ _ => rfl)
    wcs hsrr

theorem mem_addWeightedClusters (wcs : List WeightedCluster) (c : String) :
    ∀ hsrr : OutboundHTTPRouteRule, c ∈ (hsrr.addWeightedClusters wcs).TargetClusters ↔
      c ∈ hsrr.TargetClusters ∨ ∃ wc ∈ wcs, wc.ClusterName = c := by
  induction wcs with
  | nil => intro hsrr; simp [OutboundHTTPRouteRule.addWeightedClusters]
  | cons wc wcs ih =>
    intro hsrr
    have hstep := ih (hsrr.addWeightedCluster wc.ClusterName (UInt32.ofInt wc.Weight))
    simp only [OutboundHTTPRouteRule.addWeightedClusters, List.foldl_cons] at hstep ⊢
    rw [hstep]
    simp only [OutboundHTTPRouteRule.addWeightedCluster, AList.mem_insert, List.mem_cons,
      exists_eq_or_imp]
    tauto

theorem exists_mem_routeClusters (it : Rds.MapOrder) (route : OutboundRoute) (c : String) :
    (∃ wc ∈ routeClusters it route, wc.ClusterName = c) ↔
      ∃ wc ∈ route.WeightedClusters, wc.ClusterName = c := by
  simp [routeClusters]

/-- Finding or appending the rule of a match rule and changing it through its pointer changes
    the rule of that match rule and no other, while the match rules stay distinct. -/
theorem modifyRule_newHTTPServiceRouteRule (hrrs : OutboundHTTPRouteRules) (m : HTTPMatchRule)
    (hnd : (hrrs.RouteRules.map (·.HTTPMatchRule)).Nodup)
    (f : OutboundHTTPRouteRule → OutboundHTTPRouteRule) :
    ((hrrs.newHTTPServiceRouteRule m).1.modifyRule (hrrs.newHTTPServiceRouteRule m).2.1 f).RouteRules =
      (if m ∈ hrrs.RouteRules.map (·.HTTPMatchRule) then hrrs.RouteRules
        else hrrs.RouteRules ++ [⟨m, ∅⟩]).map fun r => if r.HTTPMatchRule = m then f r else r := by
  unfold OutboundHTTPRouteRules.newHTTPServiceRouteRule
  cases hi : hrrs.RouteRules.findIdx? (fun r => decide (r.HTTPMatchRule = m)) with
  | some i =>
    -- the rule is there, at the index found
    have hmem : m ∈ hrrs.RouteRules.map (·.HTTPMatchRule) := by
      obtain ⟨hlt, hm, -⟩ := List.findIdx?_eq_some_iff_getElem.mp hi
      exact List.mem_map.mpr ⟨_, List.getElem_mem hlt, by simpa using hm⟩
    rw [if_pos hmem]
    exact FirstWins.modify_findIdx?_eq_map (·.HTTPMatchRule) f hnd hi
  | none =>
    -- no rule has it: the new last rule is the only one that changes
    have hnone : ∀ r ∈ hrrs.RouteRules, ¬ r.HTTPMatchRule = m := by
      simpa using List.findIdx?_eq_none_iff.mp hi
    have hnotmem : m ∉ hrrs.RouteRules.map (·.HTTPMatchRule) := by
      simpa using hnone
    rw [if_neg hnotmem]
    simp only [OutboundHTTPRouteRules.modifyRule, modify_length_append, List.map_append,
      List.map_cons, List.map_nil, if_true]
    rw [List.map_congr_left (fun r hr => if_neg (hnone r hr)), List.map_id']

/-- The rules after a route is added are described by the routes before and that route. -/
theorem RulesDescribe.addHTTPRoute (it : Rds.MapOrder)
    {acc : OutboundHTTPRouteRules × AList fun _ : String => WeightedCluster} {P : OutboundRoute → Prop}
    (hd : RulesDescribe acc.1.RouteRules P) (route : OutboundRoute) :
    RulesDescribe (Outbound.addHTTPRoute it acc route).1.RouteRules fun r => P r ∨ r = route := by
  set m := httpMatchOf route.toRouteWeightedClusters with hm
  set old := acc.1.RouteRules
  have heq : (Outbound.addHTTPRoute it acc route).1.RouteRules =
      (if m ∈ old.map (·.HTTPMatchRule) then old else old ++ [⟨m, ∅⟩]).map
        fun r => if r.HTTPMatchRule = m then r.addWeightedClusters (routeClusters it route) else r :=
    modifyRule_newHTTPServiceRouteRule acc.1 m hd.nodup _
  -- each rule keeps its match rule
  have hkeep : (fun r : OutboundHTTPRouteRule => (if r.HTTPMatchRule = m then
      r.addWeightedClusters (routeClusters it route) else r).HTTPMatchRule) = (·.HTTPMatchRule) := by
    funext r
    split_ifs <;> simp
  have hmatches : ((Outbound.addHTTPRoute it acc route).1.RouteRules).map (·.HTTPMatchRule) =
      if m ∈ old.map (·.HTTPMatchRule) then old.map (·.HTTPMatchRule)
      else old.map (·.HTTPMatchRule) ++ [m] := by
    rw [heq, List.map_map, Function.comp_def, hkeep]
    split_ifs <;> simp
  refine ⟨?_, ?_, ?_⟩
  · rw [hmatches]
    split_ifs with hmem
    · exact hd.nodup
    · exact List.nodup_append.mpr ⟨hd.nodup, List.nodup_singleton m, by simpa using hmem⟩
  · intro m'
    have hrhs : (∃ r, (P r ∨ r = route) ∧ httpMatchOf r.toRouteWeightedClusters = m') ↔
        (∃ r, P r ∧ httpMatchOf r.toRouteWeightedClusters = m') ∨ m = m' := by
      simp only [or_and_right, exists_or, exists_eq_left, hm]
    have hlhs : (m' ∈ if m ∈ old.map (·.HTTPMatchRule) then old.map (·.HTTPMatchRule)
        else old.map (·.HTTPMatchRule) ++ [m]) ↔ m' ∈ old.map (·.HTTPMatchRule) ∨ m = m' := by
      split_ifs with hmem
      · exact ⟨.inl, fun h => h.elim id (· ▸ hmem)⟩
      · simp [eq_comm]
    rw [hmatches, hlhs, hrhs, hd.mem_matches m']
  · intro r' hr' c
    rw [heq, List.mem_map] at hr'
    obtain ⟨r0, hr0, rfl⟩ := hr'
    -- the routes that now give r0's match rule a cluster: those before, and this route
    have hrhs : (∃ r, (P r ∨ r = route) ∧ httpMatchOf r.toRouteWeightedClusters = r0.HTTPMatchRule ∧
          ∃ wc ∈ r.WeightedClusters, wc.ClusterName = c) ↔
        (∃ r, P r ∧ httpMatchOf r.toRouteWeightedClusters = r0.HTTPMatchRule ∧
          ∃ wc ∈ r.WeightedClusters, wc.ClusterName = c) ∨
        (m = r0.HTTPMatchRule ∧ ∃ wc ∈ route.WeightedClusters, wc.ClusterName = c) := by
      simp only [or_and_right, exists_or, exists_eq_left, hm]
    -- the clusters r0 had: as described if it was there, none if it is new
    have hold : c ∈ r0.TargetClusters ↔ ∃ r, P r ∧
        httpMatchOf r.toRouteWeightedClusters = r0.HTTPMatchRule ∧
          ∃ wc ∈ r.WeightedClusters, wc.ClusterName = c := by
      split_ifs at hr0 with hmem
      · exact hd.mem_clusters r0 hr0 c
      · rcases List.mem_append.mp hr0 with hr0 | hr0
        · exact hd.mem_clusters r0 hr0 c
        · rw [List.mem_singleton] at hr0
          subst hr0
          refine ⟨fun h => by simp at h, ?_⟩
          rintro ⟨r, hr, hrm, -⟩
          exact absurd ((hd.mem_matches m).mpr ⟨r, hr, hrm⟩) hmem
    split_ifs with hr0m
    · rw [mem_addWeightedClusters, exists_mem_routeClusters, HTTPMatchRule_addWeightedClusters,
        hrhs, hold, hr0m]
      simp
    · rw [hrhs, hold]
      simp [Ne.symm hr0m]

/-! ## The HTTP part of a traffic match -/

/-- What the HTTP part of a Pipy traffic match is, given the route configurations `C` read
    into it: every rule set is described by the routes of the configurations of its name, and
    a host leads to the name of a configuration that lists it. -/
structure Describes (tm : OutboundTrafficMatch) (C : Trafficpolicy.OutboundTrafficPolicy → Prop) :
    Prop where
  rules : ∀ ruleName, RulesDescribe (((tm.HTTPServiceRouteRules.lookup ruleName).map (·.RouteRules)).getD [])
    fun route => ∃ config, C config ∧ config.Name = ruleName ∧ route ∈ config.Routes
  hosts : ∀ host ruleName, tm.HTTPHostPort2Service.lookup host = some ruleName →
    ∃ config, C config ∧ config.Name = ruleName ∧ host ∈ config.Hostnames

namespace Describes

variable {tm : OutboundTrafficMatch} {C C' : Trafficpolicy.OutboundTrafficPolicy → Prop}

theorem of_iff (hd : Describes tm C) (h : ∀ config, C config ↔ C' config) : Describes tm C' where
  rules ruleName := (hd.rules ruleName).of_iff fun route => by simp only [h]
  hosts host ruleName hlookup := by simpa only [h] using hd.hosts host ruleName hlookup

/-- Only the rule sets and the hosts are described. -/
theorem congr (hd : Describes tm C) {tm' : OutboundTrafficMatch}
    (hrules : tm'.HTTPServiceRouteRules = tm.HTTPServiceRouteRules)
    (hhosts : tm'.HTTPHostPort2Service = tm.HTTPHostPort2Service) : Describes tm' C where
  rules := hrules ▸ hd.rules
  hosts := hhosts ▸ hd.hosts

end Describes

theorem describes_empty : Describes .empty fun _ => False where
  rules _ := RulesDescribe.nil fun _ => by simp
  hosts host ruleName h := by simp [OutboundTrafficMatch.empty] at h

theorem HTTPHostPort2Service_foldl_addHTTPHostPort2Service (hostnames : List String)
    (ruleName : String) (tm : OutboundTrafficMatch) :
    (hostnames.foldl (fun tm hostname => tm.addHTTPHostPort2Service hostname ruleName) tm).HTTPHostPort2Service =
      hostnames.foldl (fun m hostname => m.insert hostname ruleName) tm.HTTPHostPort2Service :=
  (@List.foldl_hom _ _ _ (fun tm : OutboundTrafficMatch => tm.HTTPHostPort2Service)
    (fun tm hostname => tm.addHTTPHostPort2Service hostname ruleName)
    (fun m hostname => m.insert hostname ruleName) hostnames tm fun _ _ => rfl).symm

theorem HTTPServiceRouteRules_foldl_addHTTPHostPort2Service (hostnames : List String)
    (ruleName : String) (tm : OutboundTrafficMatch) :
    (hostnames.foldl (fun tm hostname => tm.addHTTPHostPort2Service hostname ruleName) tm).HTTPServiceRouteRules =
      tm.HTTPServiceRouteRules :=
  foldl_keeps (·.HTTPServiceRouteRules) (fun tm hostname => tm.addHTTPHostPort2Service hostname ruleName)
    (fun _ _ => rfl) hostnames tm

section generator

variable (it : Rds.MapOrder) (pipyConf : PipyConf) (proxyIdentity : String)
  (httpRouteConfigsPerPort : AList fun _ : Int => List Trafficpolicy.OutboundTrafficPolicy)

/-- A route configuration read into a traffic match adds its routes to the rule set of its
    name and its hosts to that name. -/
theorem Describes.addHTTPRouteConfig {trafficMatch : TrafficMatch} {tm tm' : OutboundTrafficMatch}
    {dependClusters dependClusters' : AList fun _ : String => WeightedCluster}
    {config : Trafficpolicy.OutboundTrafficPolicy} {C : Trafficpolicy.OutboundTrafficPolicy → Prop}
    (h : Outbound.addHTTPRouteConfig it pipyConf proxyIdentity trafficMatch (tm, dependClusters) config =
      .ok (tm', dependClusters'))
    (hd : Describes tm C) : Describes tm' fun c => C c ∨ c = config := by
  unfold Outbound.addHTTPRouteConfig at h
  cases hnew : tm.newHTTPServiceRouteRules config.Name with
  | none => simp [hnew] at h
  | some hsrrs =>
    cases hplugins : pipyConf.getTrafficMatchPluginConfigs trafficMatch.Name with
    | error e => simp [hnew, hplugins] at h
    | ok plugins =>
      simp only [hnew, hplugins, ExceptLoop.map_ok, Except.ok.injEq, Prod.mk.injEq] at h
      obtain ⟨rfl, -⟩ := h
      have hname : config.Name.length ≠ 0 := by
        intro h0
        simp [OutboundTrafficMatch.newHTTPServiceRouteRules, h0] at hnew
      have hsrrs_eq : hsrrs = (tm.HTTPServiceRouteRules.lookup config.Name).getD ⟨[], "", ∅⟩ := by
        simp only [OutboundTrafficMatch.newHTTPServiceRouteRules, hname, if_false,
          Option.some.injEq] at hnew
        exact hnew.symm
      constructor
      · intro ruleName
        simp only [OutboundTrafficMatch.setRouteRules]
        by_cases hN : ruleName = config.Name
        · -- the rule set of the configuration gets its routes, one after the other
          subst hN
          rw [AList.lookup_insert, Option.map_some, Option.getD_some]
          have hstart : RulesDescribe (hsrrs.RouteRules) fun route =>
              ∃ c, C c ∧ c.Name = config.Name ∧ route ∈ c.Routes := by
            have := hd.rules config.Name
            rw [hsrrs_eq]
            cases hlookup : tm.HTTPServiceRouteRules.lookup config.Name <;> simpa [hlookup] using this
          have hrun := foldl_extends (fun acc P => RulesDescribe acc.1.RouteRules P)
            (fun route r => r = route) (Outbound.addHTTPRoute it)
            (fun acc route P hacc => hacc.addHTTPRoute it route) config.Routes
            ({ hsrrs with ServiceIdentity := proxyIdentity, Plugins := plugins }, dependClusters) _ hstart
          refine hrun.of_iff fun route => ?_
          constructor
          · rintro (⟨c, hc, hcN, hr⟩ | ⟨r, hr, rfl⟩)
            · exact ⟨c, .inl hc, hcN, hr⟩
            · exact ⟨config, .inr rfl, rfl, hr⟩
          · rintro ⟨c, hc | rfl, hcN, hr⟩
            · exact .inl ⟨c, hc, hcN, hr⟩
            · exact .inr ⟨route, hr, rfl⟩
        · -- every other rule set is as it was
          rw [AList.lookup_insert_ne hN, HTTPServiceRouteRules_foldl_addHTTPHostPort2Service]
          refine (hd.rules ruleName).of_iff fun route => ?_
          constructor
          · rintro ⟨c, hc, hcN, hr⟩
            exact ⟨c, .inl hc, hcN, hr⟩
          · rintro ⟨c, hc | rfl, hcN, hr⟩
            · exact ⟨c, hc, hcN, hr⟩
            · exact absurd hcN.symm hN
      · intro host ruleName hlookup
        simp only [OutboundTrafficMatch.setRouteRules,
          HTTPHostPort2Service_foldl_addHTTPHostPort2Service, GoMap.lookup_foldl_insert_const] at hlookup
        split_ifs at hlookup with hhost
        · cases hlookup
          exact ⟨config, .inr rfl, rfl, hhost⟩
        · obtain ⟨c, hc, hcN, hh⟩ := hd.hosts host ruleName hlookup
          exact ⟨c, .inl hc, hcN, hh⟩

end generator

/-! ## The traffic matches of the policy -/

namespace OutboundTrafficPolicy

/-- The traffic match `newTrafficMatch` hands out is the one of the name. -/
theorem newTrafficMatch_tm (otp : OutboundTrafficPolicy) (port : UInt16) (name : String) :
    (otp.newTrafficMatch port name).2.1 = otp.getTrafficMatch (namedPort port name) := by
  unfold newTrafficMatch getTrafficMatch
  cases otp.namedTrafficMatches.lookup (namedPort port name) <;> rfl

/-- Making a traffic match changes no traffic match as read. -/
@[simp] theorem getTrafficMatch_newTrafficMatch (otp : OutboundTrafficPolicy) (port : UInt16)
    (name k : String) : (otp.newTrafficMatch port name).1.getTrafficMatch k = otp.getTrafficMatch k := by
  unfold newTrafficMatch getTrafficMatch
  cases hlookup : otp.namedTrafficMatches.lookup (namedPort port name) with
  | some tm => rfl
  | none =>
    by_cases hk : k = namedPort port name
    · subst hk
      simp [AList.lookup_insert, hlookup]
    · simp [AList.lookup_insert_ne hk]

@[simp] theorem getTrafficMatch_setTrafficMatch (otp : OutboundTrafficPolicy) (name k : String)
    (tm : OutboundTrafficMatch) :
    (otp.setTrafficMatch name tm).getTrafficMatch k = if k = name then tm else otp.getTrafficMatch k := by
  unfold setTrafficMatch getTrafficMatch
  split_ifs with hk
  · subst hk
    simp [AList.lookup_insert]
  · simp [AList.lookup_insert_ne hk]

end OutboundTrafficPolicy

/-- The traffic match as the protocol branches get it has the HTTP part it had. -/
theorem HTTP_setUp (tm : OutboundTrafficMatch) (exist : Bool) (protocol : String) (port : UInt16)
    (ipRanges : List String) :
    let tm' := ipRanges.foldl OutboundTrafficMatch.addDestinationIPRange
      (if exist then tm else (tm.setProtocol protocol).setPort port)
    tm'.HTTPServiceRouteRules = tm.HTTPServiceRouteRules ∧
      tm'.HTTPHostPort2Service = tm.HTTPHostPort2Service := by
  constructor
  · rw [foldl_keeps (fun tm : OutboundTrafficMatch => tm.HTTPServiceRouteRules)
      OutboundTrafficMatch.addDestinationIPRange (fun _ _ => rfl)]
    split_ifs <;> rfl
  · rw [foldl_keeps (fun tm : OutboundTrafficMatch => tm.HTTPHostPort2Service)
      OutboundTrafficMatch.addDestinationIPRange (fun _ _ => rfl)]
    split_ifs <;> rfl

section generator

variable (it : Rds.MapOrder) (pipyConf : PipyConf) (proxyIdentity : String)
  (httpRouteConfigsPerPort : AList fun _ : Int => List Trafficpolicy.OutboundTrafficPolicy)

/-- The TCP and HTTPS branches write TCP route rules only. -/
theorem routeTrafficMatch_HTTP_of_not_isHTTPRouted {trafficMatch : TrafficMatch} {protocol : String}
    (hp : isHTTPRouted protocol = false) {tm tm' : OutboundTrafficMatch}
    {dependClusters dependClusters' : AList fun _ : String => WeightedCluster}
    (h : routeTrafficMatch it pipyConf proxyIdentity httpRouteConfigsPerPort trafficMatch protocol tm
      dependClusters = .ok (tm', dependClusters')) :
    tm'.HTTPServiceRouteRules = tm.HTTPServiceRouteRules ∧
      tm'.HTTPHostPort2Service = tm.HTTPHostPort2Service := by
  have hhttp : ¬ (protocol = ProtocolHTTP ∨ protocol = ProtocolGRPC) := by
    simpa [isHTTPRouted] using hp
  unfold routeTrafficMatch at h
  rw [if_neg hhttp] at h
  split_ifs at h
  · -- TCP
    obtain ⟨routed, -, hrouted⟩ := (map_eq_ok_iff _ _ _).mp h
    cases hrouted
    exact ⟨rfl, rfl⟩
  · -- HTTPS
    split at h
    · cases h
    · dsimp only at h
      split_ifs at h
      · cases h
        exact ⟨rfl, rfl⟩
      · obtain ⟨routed, -, hrouted⟩ := (map_eq_ok_iff _ _ _).mp h
        cases hrouted
        exact ⟨rfl, rfl⟩
  · cases h
    exact ⟨rfl, rfl⟩

/-- The route configurations an HTTP or gRPC traffic match makes the generator read, into the
    Pipy traffic match of its port named `http`. -/
def ReadsConfig (trafficMatch : TrafficMatch) (read : String × Trafficpolicy.OutboundTrafficPolicy) :
    Prop :=
  isHTTPRouted (toLower trafficMatch.DestinationProtocol) = true ∧
    pipyTrafficMatchName trafficMatch = read.1 ∧
      ∃ upstreamSvc, trafficMatchToMeshSvc trafficMatch = some upstreamSvc ∧
        read.2 ∈ httpRouteConfigsOf it httpRouteConfigsPerPort trafficMatch upstreamSvc

/-- What the HTTP parts of a policy's traffic matches are, given the route configurations
    `R` read into each, by name. -/
def PolicyDescribes (otp : OutboundTrafficPolicy)
    (R : String × Trafficpolicy.OutboundTrafficPolicy → Prop) : Prop :=
  ∀ name, Describes (otp.getTrafficMatch name) fun config => R (name, config)

theorem PolicyDescribes.of_iff {otp : OutboundTrafficPolicy}
    {R R' : String × Trafficpolicy.OutboundTrafficPolicy → Prop} (hd : PolicyDescribes otp R)
    (h : ∀ read, R read ↔ R' read) : PolicyDescribes otp R' :=
  fun name => (hd name).of_iff fun config => h (name, config)

/-- What one iteration of the traffic matches loop does to the traffic match of a name: the
    one the traffic match names is what its protocol's branch makes of it once set up, which
    keeps the HTTP part; every other is as it was. -/
theorem getTrafficMatch_addTrafficMatch {otp otp' : OutboundTrafficPolicy}
    {dependClusters dependClusters' : AList fun _ : String => WeightedCluster}
    {trafficMatch : TrafficMatch}
    (h : Outbound.addTrafficMatch it pipyConf proxyIdentity httpRouteConfigsPerPort (otp, dependClusters)
      trafficMatch = .ok (otp', dependClusters')) (name : String) :
    (name ≠ pipyTrafficMatchName trafficMatch ∧ otp'.getTrafficMatch name = otp.getTrafficMatch name) ∨
      (name = pipyTrafficMatchName trafficMatch ∧ ∃ tm : OutboundTrafficMatch,
        tm.HTTPServiceRouteRules = (otp.getTrafficMatch name).HTTPServiceRouteRules ∧
        tm.HTTPHostPort2Service = (otp.getTrafficMatch name).HTTPHostPort2Service ∧
        routeTrafficMatch it pipyConf proxyIdentity httpRouteConfigsPerPort trafficMatch
          (toLower trafficMatch.DestinationProtocol) tm dependClusters =
            .ok (otp'.getTrafficMatch name, dependClusters')) := by
  unfold Outbound.addTrafficMatch at h
  obtain ⟨routed, hroute, hrouted⟩ := (map_eq_ok_iff _ _ _).mp h
  cases hrouted
  have hkey : namedPort (UInt16.ofInt trafficMatch.DestinationPort)
      (if isHTTPRouted (toLower trafficMatch.DestinationProtocol) then ProtocolHTTP
        else trafficMatch.Name) = pipyTrafficMatchName trafficMatch := rfl
  rw [OutboundTrafficPolicy.getTrafficMatch_setTrafficMatch, hkey]
  by_cases hname : name = pipyTrafficMatchName trafficMatch
  · rw [if_pos hname]
    subst hname
    -- the branch gets the traffic match of the name, set up when new, with its ranges
    have hsetUp := HTTP_setUp
      (otp.newTrafficMatch (UInt16.ofInt trafficMatch.DestinationPort)
        (if isHTTPRouted (toLower trafficMatch.DestinationProtocol) then ProtocolHTTP
          else trafficMatch.Name)).2.1
      (otp.newTrafficMatch (UInt16.ofInt trafficMatch.DestinationPort)
        (if isHTTPRouted (toLower trafficMatch.DestinationProtocol) then ProtocolHTTP
          else trafficMatch.Name)).2.2
      (toLower trafficMatch.DestinationProtocol) (UInt16.ofInt trafficMatch.DestinationPort)
      trafficMatch.DestinationIPRanges
    have htm := OutboundTrafficPolicy.newTrafficMatch_tm otp (UInt16.ofInt trafficMatch.DestinationPort)
      (if isHTTPRouted (toLower trafficMatch.DestinationProtocol) then ProtocolHTTP
        else trafficMatch.Name)
    rw [hkey] at htm
    exact .inr ⟨rfl, _, hsetUp.1.trans (congrArg _ htm), hsetUp.2.trans (congrArg _ htm), hroute⟩
  · rw [if_neg hname, OutboundTrafficPolicy.getTrafficMatch_newTrafficMatch]
    exact .inl ⟨hname, rfl⟩

/-- A traffic match adds to the description of the policy the route configurations it
    reads. -/
theorem PolicyDescribes.addTrafficMatch {otp otp' : OutboundTrafficPolicy}
    {dependClusters dependClusters' : AList fun _ : String => WeightedCluster}
    {trafficMatch : TrafficMatch} {R : String × Trafficpolicy.OutboundTrafficPolicy → Prop}
    (h : Outbound.addTrafficMatch it pipyConf proxyIdentity httpRouteConfigsPerPort (otp, dependClusters)
      trafficMatch = .ok (otp', dependClusters'))
    (hd : PolicyDescribes otp R) :
    PolicyDescribes otp' fun read => R read ∨ ReadsConfig it httpRouteConfigsPerPort trafficMatch read := by
  intro name
  rcases getTrafficMatch_addTrafficMatch it pipyConf proxyIdentity httpRouteConfigsPerPort h name with
    ⟨hname, hsame⟩ | ⟨rfl, tm, hrules0, hhosts0, hroute⟩
  · -- every other traffic match is as it was, and reads nothing of this one
    rw [hsame]
    refine (hd name).of_iff fun config => ?_
    simp only [ReadsConfig, iff_self_or]
    rintro ⟨-, hname', -⟩
    exact absurd hname'.symm hname
  · -- the traffic match of this name: what the protocol's branch wrote
    have hstart := (hd (pipyTrafficMatchName trafficMatch)).congr hrules0 hhosts0
    cases hproto : isHTTPRouted (toLower trafficMatch.DestinationProtocol) with
    | false =>
      obtain ⟨hrules, hhosts⟩ := routeTrafficMatch_HTTP_of_not_isHTTPRouted it pipyConf proxyIdentity
        httpRouteConfigsPerPort hproto hroute
      refine (hstart.congr hrules hhosts).of_iff fun config => ?_
      simp [ReadsConfig, hproto]
    | true =>
      have hhttp : toLower trafficMatch.DestinationProtocol = ProtocolHTTP ∨
          toLower trafficMatch.DestinationProtocol = ProtocolGRPC := by
        simpa [isHTTPRouted] using hproto
      unfold routeTrafficMatch at hroute
      rw [if_pos hhttp] at hroute
      cases hsvc : trafficMatchToMeshSvc trafficMatch with
      | none => simp [hsvc] at hroute
      | some upstreamSvc =>
        rw [hsvc] at hroute
        -- the route configurations one after the other
        have hrun := foldlM_extends (fun acc C => Describes acc.1 C) (fun c config => config = c)
          (addHTTPRouteConfig it pipyConf proxyIdentity trafficMatch)
          (fun acc config acc' C hacc hd => hd.addHTTPRouteConfig it pipyConf proxyIdentity hacc)
          _ _ _ _ hroute hstart
        refine hrun.of_iff fun config => ?_
        simp [ReadsConfig, hproto, hsvc]

/-- The route generator writes every rule set and host of an `http` traffic match from the
    route configurations its HTTP and gRPC traffic matches read. -/
theorem generatePipyOutboundTrafficRoutePolicy_describes {trafficMatches : List TrafficMatch}
    {otp : OutboundTrafficPolicy} {dependClusters : AList fun _ : String => WeightedCluster}
    (h : generatePipyOutboundTrafficRoutePolicy it pipyConf proxyIdentity httpRouteConfigsPerPort
      trafficMatches = .ok (some otp, dependClusters)) :
    PolicyDescribes otp fun read =>
      ∃ trafficMatch ∈ trafficMatches, ReadsConfig it httpRouteConfigsPerPort trafficMatch read := by
  unfold generatePipyOutboundTrafficRoutePolicy at h
  split_ifs at h
  · cases h
  · obtain ⟨routed, hrun, hrouted⟩ := (map_eq_ok_iff _ _ _).mp h
    cases hrouted
    have hempty : PolicyDescribes .empty fun _ => False :=
      fun _ => describes_empty
    have hall := foldlM_extends (fun acc R => PolicyDescribes acc.1 R)
      (ReadsConfig it httpRouteConfigsPerPort)
      (Outbound.addTrafficMatch it pipyConf proxyIdentity httpRouteConfigsPerPort)
      (fun acc trafficMatch acc' R hacc hd => hd.addTrafficMatch it pipyConf proxyIdentity
        httpRouteConfigsPerPort hacc)
      trafficMatches _ _ _ hrun hempty
    exact hall.of_iff fun read => by simp

/-! ### The service identity of the rule sets -/

/-- Every rule set of a traffic match carries the service identity `serviceIdentity`. -/
def IdentityIs (serviceIdentity : String) (tm : OutboundTrafficMatch) : Prop :=
  ∀ ruleName hsrrs, tm.HTTPServiceRouteRules.lookup ruleName = some hsrrs →
    hsrrs.ServiceIdentity = serviceIdentity

theorem identityIs_empty (serviceIdentity : String) : IdentityIs serviceIdentity .empty := by
  intro ruleName hsrrs h
  simp [OutboundTrafficMatch.empty] at h

/-- The routes loop changes the route rules of the rule set only. -/
theorem ServiceIdentity_foldl_addHTTPRoute (routes : List OutboundRoute)
    (acc : OutboundHTTPRouteRules × AList fun _ : String => WeightedCluster) :
    (routes.foldl (addHTTPRoute it) acc).1.ServiceIdentity = acc.1.ServiceIdentity := by
  refine foldl_keeps (fun acc : OutboundHTTPRouteRules × AList fun _ : String => WeightedCluster =>
    acc.1.ServiceIdentity) (addHTTPRoute it) (fun acc route => ?_) routes acc
  unfold addHTTPRoute OutboundHTTPRouteRules.newHTTPServiceRouteRule
  split <;> rfl

/-- A route configuration read gives its rule set the proxy's identity. -/
theorem IdentityIs.addHTTPRouteConfig {trafficMatch : TrafficMatch} {tm tm' : OutboundTrafficMatch}
    {dependClusters dependClusters' : AList fun _ : String => WeightedCluster}
    {config : Trafficpolicy.OutboundTrafficPolicy}
    (h : Outbound.addHTTPRouteConfig it pipyConf proxyIdentity trafficMatch (tm, dependClusters) config =
      .ok (tm', dependClusters'))
    (hi : IdentityIs proxyIdentity tm) : IdentityIs proxyIdentity tm' := by
  unfold Outbound.addHTTPRouteConfig at h
  cases hnew : tm.newHTTPServiceRouteRules config.Name with
  | none => simp [hnew] at h
  | some hsrrs =>
    cases hplugins : pipyConf.getTrafficMatchPluginConfigs trafficMatch.Name with
    | error e => simp [hnew, hplugins] at h
    | ok plugins =>
      simp only [hnew, hplugins, ExceptLoop.map_ok, Except.ok.injEq, Prod.mk.injEq] at h
      obtain ⟨rfl, -⟩ := h
      intro ruleName hsrrs' hlookup
      simp only [OutboundTrafficMatch.setRouteRules] at hlookup
      by_cases hN : ruleName = config.Name
      · -- the configuration's rule set, written with the identity and then its routes
        subst hN
        rw [AList.lookup_insert, Option.some.injEq] at hlookup
        rw [← hlookup, ServiceIdentity_foldl_addHTTPRoute]
      · rw [AList.lookup_insert_ne hN, HTTPServiceRouteRules_foldl_addHTTPHostPort2Service] at hlookup
        exact hi ruleName hsrrs' hlookup

/-- Whatever its protocol, a traffic match leaves every rule set with the proxy's identity. -/
theorem IdentityIs.routeTrafficMatch {trafficMatch : TrafficMatch} {tm tm' : OutboundTrafficMatch}
    {dependClusters dependClusters' : AList fun _ : String => WeightedCluster}
    (h : Outbound.routeTrafficMatch it pipyConf proxyIdentity httpRouteConfigsPerPort trafficMatch
      (toLower trafficMatch.DestinationProtocol) tm dependClusters = .ok (tm', dependClusters'))
    (hi : IdentityIs proxyIdentity tm) : IdentityIs proxyIdentity tm' := by
  cases hproto : isHTTPRouted (toLower trafficMatch.DestinationProtocol) with
  | false =>
    obtain ⟨hrules, -⟩ := routeTrafficMatch_HTTP_of_not_isHTTPRouted it pipyConf proxyIdentity
      httpRouteConfigsPerPort hproto h
    intro ruleName hsrrs hlookup
    rw [hrules] at hlookup
    exact hi ruleName hsrrs hlookup
  | true =>
    have hhttp : toLower trafficMatch.DestinationProtocol = ProtocolHTTP ∨
        toLower trafficMatch.DestinationProtocol = ProtocolGRPC := by
      simpa [isHTTPRouted] using hproto
    unfold Outbound.routeTrafficMatch at h
    rw [if_pos hhttp] at h
    cases hsvc : trafficMatchToMeshSvc trafficMatch with
    | none => simp [hsvc] at h
    | some upstreamSvc =>
      rw [hsvc] at h
      exact foldlM_preserves (Outbound.addHTTPRouteConfig it pipyConf proxyIdentity trafficMatch)
        (fun acc => IdentityIs proxyIdentity acc.1)
        (fun acc config acc' hacc hi => hi.addHTTPRouteConfig it pipyConf proxyIdentity hacc)
        _ _ _ h hi

/-- Every rule set the route generator writes carries the proxy's identity. -/
theorem identity_generatePipyOutboundTrafficRoutePolicy {trafficMatches : List TrafficMatch}
    {otp : OutboundTrafficPolicy} {dependClusters : AList fun _ : String => WeightedCluster}
    (h : generatePipyOutboundTrafficRoutePolicy it pipyConf proxyIdentity httpRouteConfigsPerPort
      trafficMatches = .ok (some otp, dependClusters)) (name : String) :
    IdentityIs proxyIdentity (otp.getTrafficMatch name) := by
  unfold generatePipyOutboundTrafficRoutePolicy at h
  split_ifs at h
  · cases h
  · obtain ⟨routed, hrun, hrouted⟩ := (map_eq_ok_iff _ _ _).mp h
    cases hrouted
    -- the loop of traffic matches, each traffic match by `getTrafficMatch_addTrafficMatch`
    refine foldlM_preserves (addTrafficMatch it pipyConf proxyIdentity httpRouteConfigsPerPort)
      (fun acc => ∀ name, IdentityIs proxyIdentity (acc.1.getTrafficMatch name))
      (fun acc trafficMatch acc' hacc hi name => ?_) trafficMatches _ _ hrun
      (fun _ => identityIs_empty proxyIdentity) name
    rcases getTrafficMatch_addTrafficMatch it pipyConf proxyIdentity httpRouteConfigsPerPort hacc name with
      ⟨-, hsame⟩ | ⟨rfl, tm, hrules0, -, hroute⟩
    · rw [hsame]
      exact hi name
    · have hstart : IdentityIs proxyIdentity tm := by
        intro ruleName hsrrs hlookup
        rw [hrules0] at hlookup
        exact hi _ ruleName hsrrs hlookup
      exact hstart.routeTrafficMatch it pipyConf proxyIdentity httpRouteConfigsPerPort hroute

end generator

/-! ## The recorded clusters -/

/-- Recording clusters, the first of a name staying, finds for a name the first cluster of
    it. -/
theorem lookup_foldl_addDependCluster (c : String) :
    ∀ (wcs : List WeightedCluster) (dependClusters : AList fun _ : String => WeightedCluster),
      (wcs.foldl addDependCluster dependClusters).lookup c =
        (dependClusters.lookup c).or (wcs.find? (·.ClusterName = c))
  | [], dependClusters => by simp
  | wc :: wcs, dependClusters => by
    rw [List.foldl_cons, lookup_foldl_addDependCluster c wcs, List.find?_cons]
    unfold addDependCluster
    by_cases hc : wc.ClusterName = c
    · subst hc
      by_cases hwc : wc.ClusterName ∈ dependClusters
      · -- the name is recorded already, and this cluster is dropped
        obtain ⟨v, hv⟩ := Option.isSome_iff_exists.mp (AList.lookup_isSome.mpr hwc)
        simp [hwc, hv]
      · simp [hwc, AList.lookup_insert, AList.lookup_eq_none.mpr hwc]
    · split_ifs <;> simp [AList.lookup_insert_ne (Ne.symm hc), hc]

/-- Every recorded cluster is recorded under its name. -/
theorem addDependCluster_keys {dependClusters : AList fun _ : String => WeightedCluster}
    (h : ∀ e ∈ dependClusters.entries, e.2.ClusterName = e.1) (wc : WeightedCluster) :
    ∀ e ∈ (addDependCluster dependClusters wc).entries, e.2.ClusterName = e.1 := by
  unfold addDependCluster
  split_ifs
  · exact h
  · intro e he
    rw [AList.entries_insert, List.mem_cons] at he
    rcases he with rfl | he
    · rfl
    · exact h e ((List.kerase_sublist _ _).subset he)

section generator

variable (it : Rds.MapOrder) (pipyConf : PipyConf) (proxyIdentity : String)
  (httpRouteConfigsPerPort : AList fun _ : Int => List Trafficpolicy.OutboundTrafficPolicy)

/-- The clusters of the routes of some route configurations, in the order the generator reads
    them. -/
def configClusters (httpRouteConfigs : List Trafficpolicy.OutboundTrafficPolicy) : List WeightedCluster :=
  httpRouteConfigs.flatMap fun httpRouteConfig => httpRouteConfig.Routes.flatMap (routeClusters it)

/-- The clusters a traffic match makes the generator record, in order, each with the retry
    policy of the route that names it; those of a TCP traffic match have none. -/
def clusterVisits (trafficMatch : TrafficMatch) : List WeightedCluster :=
  let destinationProtocol := toLower trafficMatch.DestinationProtocol
  let routed := ((trafficMatchToMeshSvc trafficMatch).map fun upstreamSvc =>
    configClusters it (httpRouteConfigsOf it httpRouteConfigsPerPort trafficMatch upstreamSvc)).getD []
  if destinationProtocol = ProtocolHTTP ∨ destinationProtocol = ProtocolGRPC then routed
  else if destinationProtocol = ProtocolTCP ∨ destinationProtocol = ProtocolTCPServerFirst then
    trafficMatch.WeightedClusters.map fun serviceCluster =>
      { toWeightedCluster := serviceCluster, RetryPolicy := none }
  else if destinationProtocol = ProtocolHTTPS then routed
  else []

theorem dependClusters_addHTTPRouteConfig {trafficMatch : TrafficMatch} {tm tm' : OutboundTrafficMatch}
    {dependClusters dependClusters' : AList fun _ : String => WeightedCluster}
    {config : Trafficpolicy.OutboundTrafficPolicy}
    (h : addHTTPRouteConfig it pipyConf proxyIdentity trafficMatch (tm, dependClusters) config =
      .ok (tm', dependClusters')) :
    dependClusters' = (configClusters it [config]).foldl addDependCluster dependClusters := by
  unfold addHTTPRouteConfig at h
  cases hnew : tm.newHTTPServiceRouteRules config.Name with
  | none => simp [hnew] at h
  | some hsrrs =>
    cases hplugins : pipyConf.getTrafficMatchPluginConfigs trafficMatch.Name with
    | error e => simp [hnew, hplugins] at h
    | ok plugins =>
      simp only [hnew, hplugins, ExceptLoop.map_ok, Except.ok.injEq, Prod.mk.injEq] at h
      rw [← h.2, configClusters, List.flatMap_singleton, List.foldl_flatMap]
      exact (List.foldl_hom Prod.snd fun _ _ => rfl).symm

theorem addHTTPSRouteConfigs_snd (httpRouteConfigs : List Trafficpolicy.OutboundTrafficPolicy)
    (acc : OutboundTCPServiceRouteRules × AList fun _ : String => WeightedCluster) :
    (addHTTPSRouteConfigs it httpRouteConfigs acc).2 =
      (configClusters it httpRouteConfigs).foldl addDependCluster acc.2 := by
  -- the nested loops are one loop over the clusters of all the routes
  have hflat : addHTTPSRouteConfigs it httpRouteConfigs acc = (configClusters it httpRouteConfigs).foldl
      (fun acc wc => (acc.1.addWeightedCluster wc.ClusterName (UInt32.ofInt wc.Weight),
        addDependCluster acc.2 wc)) acc := by
    simp only [addHTTPSRouteConfigs, configClusters, List.foldl_flatMap]
  rw [hflat]
  exact foldl_pair_snd (fun (tsrr : OutboundTCPServiceRouteRules) (wc : WeightedCluster) =>
      tsrr.addWeightedCluster wc.ClusterName (UInt32.ofInt wc.Weight))
    addDependCluster _ _

/-- A traffic match records its clusters, in the order `clusterVisits` lists them. -/
theorem dependClusters_routeTrafficMatch {trafficMatch : TrafficMatch} {tm tm' : OutboundTrafficMatch}
    {dependClusters dependClusters' : AList fun _ : String => WeightedCluster}
    (h : routeTrafficMatch it pipyConf proxyIdentity httpRouteConfigsPerPort trafficMatch
      (toLower trafficMatch.DestinationProtocol) tm dependClusters = .ok (tm', dependClusters')) :
    dependClusters' =
      (clusterVisits it httpRouteConfigsPerPort trafficMatch).foldl addDependCluster dependClusters := by
  unfold routeTrafficMatch at h
  unfold clusterVisits
  dsimp only
  split_ifs at h ⊢ with hhttp htcp hhttps
  · -- HTTP and gRPC: the route configurations one after the other
    cases hsvc : trafficMatchToMeshSvc trafficMatch with
    | none => simp [hsvc] at h
    | some upstreamSvc =>
      rw [hsvc] at h
      have hrun := foldlM_hom Prod.snd (addHTTPRouteConfig it pipyConf proxyIdentity trafficMatch)
        (fun dependClusters config => (configClusters it [config]).foldl addDependCluster dependClusters)
        (fun acc config acc' hacc => dependClusters_addHTTPRouteConfig it pipyConf proxyIdentity hacc)
        _ _ _ h
      simpa [configClusters, List.foldl_flatMap] using hrun
  · -- TCP: the traffic match's own clusters, without retry policy
    obtain ⟨routed, -, hrouted⟩ := (map_eq_ok_iff _ _ _).mp h
    cases hrouted
    rw [List.foldl_map]
    exact foldl_pair_snd
      (fun (tsrr : OutboundTCPServiceRouteRules) (serviceCluster : Trafficpolicy.WeightedCluster) =>
        tsrr.addWeightedCluster serviceCluster.ClusterName
        (UInt32.ofInt serviceCluster.Weight))
      (fun dependClusters serviceCluster =>
        addDependCluster dependClusters { toWeightedCluster := serviceCluster, RetryPolicy := none }) _ _
  · -- HTTPS: every route's clusters, when there is a route configuration
    cases hsvc : trafficMatchToMeshSvc trafficMatch with
    | none => simp [hsvc] at h
    | some upstreamSvc =>
      rw [hsvc] at h
      dsimp only at h
      rw [Option.map_some, Option.getD_some]
      split_ifs at h with hnone
      · cases h
        rw [List.length_eq_zero_iff.mp hnone]
        rfl
      · obtain ⟨routed, -, hrouted⟩ := (map_eq_ok_iff _ _ _).mp h
        cases hrouted
        exact addHTTPSRouteConfigs_snd it _ _
  · cases h
    rfl

/-- The route generator records, for every name, the first cluster of it among the clusters
    of its traffic matches in order. -/
theorem dependClusters_generatePipyOutboundTrafficRoutePolicy {trafficMatches : List TrafficMatch}
    {otp : Option OutboundTrafficPolicy} {dependClusters : AList fun _ : String => WeightedCluster}
    (h : generatePipyOutboundTrafficRoutePolicy it pipyConf proxyIdentity httpRouteConfigsPerPort
      trafficMatches = .ok (otp, dependClusters)) :
    dependClusters =
      (trafficMatches.flatMap (clusterVisits it httpRouteConfigsPerPort)).foldl addDependCluster ∅ := by
  unfold generatePipyOutboundTrafficRoutePolicy at h
  split_ifs at h with hnil
  · cases h
    rw [List.length_eq_zero_iff.mp hnil]
    rfl
  · obtain ⟨routed, hrun, hrouted⟩ := (map_eq_ok_iff _ _ _).mp h
    cases hrouted
    rw [List.foldl_flatMap]
    refine foldlM_hom Prod.snd (addTrafficMatch it pipyConf proxyIdentity httpRouteConfigsPerPort)
      (fun dependClusters trafficMatch =>
        (clusterVisits it httpRouteConfigsPerPort trafficMatch).foldl addDependCluster dependClusters)
      (fun acc trafficMatch acc' hacc => ?_) _ _ _ hrun
    unfold addTrafficMatch at hacc
    obtain ⟨routed, hroute, hrouted⟩ := (map_eq_ok_iff _ _ _).mp hacc
    cases hrouted
    exact dependClusters_routeTrafficMatch it pipyConf proxyIdentity httpRouteConfigsPerPort hroute

/-- The route generator configures no cluster. -/
theorem ClustersConfigs_generatePipyOutboundTrafficRoutePolicy {trafficMatches : List TrafficMatch}
    {otp : OutboundTrafficPolicy} {dependClusters : AList fun _ : String => WeightedCluster}
    (h : generatePipyOutboundTrafficRoutePolicy it pipyConf proxyIdentity httpRouteConfigsPerPort
      trafficMatches = .ok (some otp, dependClusters)) :
    otp.ClustersConfigs = ∅ := by
  unfold generatePipyOutboundTrafficRoutePolicy at h
  split_ifs at h
  · cases h
  · obtain ⟨routed, hrun, hrouted⟩ := (map_eq_ok_iff _ _ _).mp h
    cases hrouted
    have hkeep := foldlM_hom (fun acc : OutboundTrafficPolicy × AList fun _ : String => WeightedCluster =>
        acc.1.ClustersConfigs) (addTrafficMatch it pipyConf proxyIdentity httpRouteConfigsPerPort)
      (fun clustersConfigs _ => clustersConfigs) (fun acc trafficMatch acc' hacc => ?_) _ _ _ hrun
    · simpa [OutboundTrafficPolicy.empty] using hkeep
    · unfold addTrafficMatch at hacc
      obtain ⟨routed, -, hrouted⟩ := (map_eq_ok_iff _ _ _).mp hacc
      cases hrouted
      unfold OutboundTrafficPolicy.newTrafficMatch
      split <;> rfl

/-- Every cluster the route generator records is recorded under its name. -/
theorem keys_generatePipyOutboundTrafficRoutePolicy {trafficMatches : List TrafficMatch}
    {otp : Option OutboundTrafficPolicy} {dependClusters : AList fun _ : String => WeightedCluster}
    (h : generatePipyOutboundTrafficRoutePolicy it pipyConf proxyIdentity httpRouteConfigsPerPort
      trafficMatches = .ok (otp, dependClusters)) :
    ∀ e ∈ dependClusters.entries, e.2.ClusterName = e.1 := by
  rw [dependClusters_generatePipyOutboundTrafficRoutePolicy it pipyConf proxyIdentity
    httpRouteConfigsPerPort h]
  generalize trafficMatches.flatMap (clusterVisits it httpRouteConfigsPerPort) = wcs
  suffices ∀ (dependClusters : AList fun _ : String => WeightedCluster),
      (∀ e ∈ dependClusters.entries, e.2.ClusterName = e.1) →
        ∀ e ∈ (wcs.foldl addDependCluster dependClusters).entries, e.2.ClusterName = e.1 from
    this ∅ (by simp)
  induction wcs with
  | nil => exact fun _ h => h
  | cons wc wcs ih => exact fun dependClusters h => ih _ (addDependCluster_keys h wc)

end generator

/-! ## The cluster configurations -/

/-- What the balance generator makes of a recorded cluster's new configuration: the cluster's
    retry policy once an endpoint is added, none without endpoints. -/
def RetryConfigured (cluster : WeightedCluster) (cc : ClusterConfigs) : Prop :=
  cc.RetryPolicy = if cc.Endpoints.isSome then cluster.RetryPolicy.bind RetryPolicy.ofSpec? else none

/-- An endpoint gives the configuration endpoints, and the cluster's retry policy if it has
    one. -/
theorem addUpstreamEndpoint_retry {clusterConfig : MeshClusterConfig} {cluster : WeightedCluster}
    {cc cc' : ClusterConfigs} {upstreamEndpoint : Endpoint}
    (h : addUpstreamEndpoint clusterConfig cluster cc upstreamEndpoint = .ok cc') :
    (cc'.Endpoints.isSome, cc'.RetryPolicy) =
      (true, (cluster.RetryPolicy.bind RetryPolicy.ofSpec?).or cc.RetryPolicy) := by
  unfold addUpstreamEndpoint at h
  cases hretry : cluster.RetryPolicy with
  | none =>
    simp only [hretry, Except.ok.injEq] at h
    subst h
    simp [ClusterConfigs.addWeightedZoneEndpoint]
  | some retryPolicy =>
    simp only [hretry, ClusterConfigs.setRetryPolicy] at h
    cases hspec : RetryPolicy.ofSpec? retryPolicy with
    | none => simp [hspec] at h
    | some rp =>
      simp only [hspec, Except.ok.injEq] at h
      subst h
      simp [ClusterConfigs.addWeightedZoneEndpoint, hspec]

/-- The endpoints loop: endpoints and the cluster's retry policy after at least one endpoint. -/
theorem foldlM_addUpstreamEndpoint {clusterConfig : MeshClusterConfig} {cluster : WeightedCluster}
    {eps : List Endpoint} (heps : eps ≠ []) {cc cc' : ClusterConfigs}
    (h : eps.foldlM (addUpstreamEndpoint clusterConfig cluster) cc = .ok cc') :
    cc'.Endpoints.isSome ∧ cc'.RetryPolicy = (cluster.RetryPolicy.bind RetryPolicy.ofSpec?).or cc.RetryPolicy := by
  set retry := cluster.RetryPolicy.bind RetryPolicy.ofSpec?
  have hrun := foldlM_hom (fun cc : ClusterConfigs => (cc.Endpoints.isSome, cc.RetryPolicy))
    (addUpstreamEndpoint clusterConfig cluster) (fun p _ => (true, retry.or p.2))
    (fun _ _ _ hstep => addUpstreamEndpoint_retry hstep) eps cc cc' h
  -- after the first endpoint the loop keeps what it has
  have hfold : ∀ (eps : List Endpoint) (p : Bool × Option RetryPolicy), eps ≠ [] →
      eps.foldl (fun p _ => (true, retry.or p.2)) p = (true, retry.or p.2) := by
    intro eps
    induction eps with
    | nil => intro p hnil; exact absurd rfl hnil
    | cons ep eps ih =>
      intro p _
      cases eps with
      | nil => rfl
      | cons ep' eps' =>
        rw [List.foldl_cons, ih _ (List.cons_ne_nil _ _)]
        cases retry <;> rfl
  rw [hfold eps _ heps, Prod.mk.injEq] at hrun
  exact ⟨hrun.1, hrun.2⟩

section balance

variable (E : GoSet.Enumerator String) (clustersConfigs : List MeshClusterConfig)
  (upstreamEndpoints : String → List Endpoint)

/-- A recorded cluster whose configuration is not made yet leaves the configurations as they
    were, or gets a new one made as `RetryConfigured` says. -/
theorem addDependClusterConfig_cases {acc acc' : OutboundTrafficPolicy × Bool} {cluster : WeightedCluster}
    (hfresh : cluster.ClusterName ∉ acc.1.ClustersConfigs)
    (h : addDependClusterConfig clustersConfigs upstreamEndpoints acc cluster = .ok acc') :
    acc'.1.ClustersConfigs = acc.1.ClustersConfigs ∨ ∃ cc, RetryConfigured cluster cc ∧
      acc'.1.ClustersConfigs = acc.1.ClustersConfigs.insert cluster.ClusterName cc := by
  have hnew : acc.1.newClusterConfigs cluster.ClusterName = ⟨none, none⟩ := by
    simp [OutboundTrafficPolicy.newClusterConfigs, AList.lookup_eq_none.mpr hfresh]
  unfold addDependClusterConfig at h
  cases hcfg : getMeshClusterConfigs clustersConfigs cluster.ClusterName with
  | none =>
    simp only [hcfg, Except.ok.injEq] at h
    subst h
    exact .inl rfl
  | some clusterConfig =>
    simp only [hcfg, hnew] at h
    split_ifs at h with heps
    · -- no endpoints: an empty configuration
      cases h
      exact .inr ⟨⟨none, none⟩, by simp [RetryConfigured], rfl⟩
    · obtain ⟨cc, hrun, hcc⟩ := (map_eq_ok_iff _ _ _).mp h
      cases hcc
      obtain ⟨hendpoints, hretry⟩ := foldlM_addUpstreamEndpoint
        (fun hnil => heps (by simp [hnil])) hrun
      refine .inr ⟨cc, ?_, rfl⟩
      rw [RetryConfigured, if_pos hendpoints, hretry, Option.or_none]

/-- The loop over recorded clusters of distinct names, none configured yet: every
    configuration after it was there before or is a recorded cluster's, made new. -/
theorem lookup_foldlM_addDependClusterConfig :
    ∀ (clusters : List WeightedCluster) (acc acc' : OutboundTrafficPolicy × Bool),
      (clusters.map (·.ClusterName)).Nodup → (∀ wc ∈ clusters, wc.ClusterName ∉ acc.1.ClustersConfigs) →
      clusters.foldlM (addDependClusterConfig clustersConfigs upstreamEndpoints) acc = .ok acc' →
      ∀ c cc, acc'.1.ClustersConfigs.lookup c = some cc →
        acc.1.ClustersConfigs.lookup c = some cc ∨
          ∃ wc ∈ clusters, wc.ClusterName = c ∧ RetryConfigured wc cc
  | [], acc, acc', _, _, h, c, cc, hc => by
    obtain rfl : acc = acc' := by simpa [pure, Except.pure] using h
    exact .inl hc
  | wc :: rest, acc, acc', hnd, hfresh, h, c, cc, hc => by
    rw [List.map_cons, List.nodup_cons] at hnd
    cases hstep : addDependClusterConfig clustersConfigs upstreamEndpoints acc wc with
    | error e => rw [foldlM_cons_error rest hstep] at h; cases h
    | ok acc₁ =>
      rw [foldlM_cons_ok rest hstep] at h
      have hcases := addDependClusterConfig_cases clustersConfigs upstreamEndpoints
        (hfresh wc List.mem_cons_self) hstep
      -- the rest of the clusters are not configured after this one either
      have hfresh₁ : ∀ wc' ∈ rest, wc'.ClusterName ∉ acc₁.1.ClustersConfigs := by
        intro wc' hwc' hmem
        have hne : wc'.ClusterName ≠ wc.ClusterName := fun heq =>
          hnd.1 (heq ▸ List.mem_map_of_mem hwc')
        rcases hcases with hsame | ⟨cc₁, -, hins⟩
        · exact hfresh wc' (List.mem_cons_of_mem _ hwc') (hsame ▸ hmem)
        · rw [hins, AList.mem_insert] at hmem
          exact hmem.elim hne (hfresh wc' (List.mem_cons_of_mem _ hwc'))
      rcases lookup_foldlM_addDependClusterConfig rest acc₁ acc' hnd.2 hfresh₁ h c cc hc with
        hc₁ | ⟨wc', hwc', hname, hcc⟩
      · rcases hcases with hsame | ⟨cc₁, hcc₁, hins⟩
        · exact .inl (hsame ▸ hc₁)
        · rw [hins] at hc₁
          by_cases hcw : c = wc.ClusterName
          · subst hcw
            rw [AList.lookup_insert, Option.some.injEq] at hc₁
            subst hc₁
            exact .inr ⟨wc, List.mem_cons_self, rfl, hcc₁⟩
          · exact .inl (by rwa [AList.lookup_insert_ne hcw] at hc₁)
      · exact .inr ⟨wc', List.mem_cons_of_mem _ hwc', hname, hcc⟩

/-- Starting from no configuration, every cluster configuration the balance generator makes
    is a recorded cluster's, made as `RetryConfigured` says. -/
theorem lookup_ClustersConfigs_generatePipyOutboundTrafficBalancePolicy
    {otp otp' : OutboundTrafficPolicy} {ready : Bool}
    {dependClusters : AList fun _ : String => WeightedCluster}
    (hkeys : ∀ e ∈ dependClusters.entries, e.2.ClusterName = e.1) (hempty : otp.ClustersConfigs = ∅)
    (h : generatePipyOutboundTrafficBalancePolicy E clustersConfigs upstreamEndpoints otp dependClusters =
      .ok (otp', ready))
    {c : String} {cc : ClusterConfigs} (hc : otp'.ClustersConfigs.lookup c = some cc) :
    ∃ cluster, dependClusters.lookup c = some cluster ∧ RetryConfigured cluster cc := by
  -- a recorded cluster's name is its key
  have hname : ∀ p ∈ GoMap.range E dependClusters, p.2.ClusterName = p.1 := by
    intro p hp
    have hlookup := (GoMap.mem_range_iff E dependClusters p.1 p.2).mp hp
    exact hkeys ⟨p.1, p.2⟩ (AList.mem_lookup_iff.mp hlookup)
  have hnd : (((GoMap.range E dependClusters).map (·.2)).map (·.ClusterName)).Nodup := by
    have hfst : ((GoMap.range E dependClusters).map (·.2)).map (·.ClusterName) =
        (GoMap.range E dependClusters).map Prod.fst := by
      rw [List.map_map]
      exact List.map_congr_left fun p hp => hname p hp
    rw [hfst]
    exact GoMap.nodup_map_fst_range E dependClusters
  rcases lookup_foldlM_addDependClusterConfig clustersConfigs upstreamEndpoints _ (otp, true) (otp', ready)
      hnd (fun _ _ => by simp [hempty]) h c cc hc with hc₀ | ⟨wc, hwc, hwcname, hcc⟩
  · simp [hempty] at hc₀
  · obtain ⟨p, hp, rfl⟩ := List.mem_map.mp hwc
    refine ⟨p.2, ?_, hcc⟩
    rw [← hwcname, hname p hp]
    exact (GoMap.mem_range_iff E dependClusters p.1 p.2).mp hp

variable (it : Rds.MapOrder) (pipyConf : PipyConf) (proxyIdentity : String)
  (httpRouteConfigsPerPort : AList fun _ : Int => List Trafficpolicy.OutboundTrafficPolicy)

/-- The balance generator configures clusters only. -/
theorem namedTrafficMatches_generatePipyOutboundTrafficBalancePolicy {otp otp' : OutboundTrafficPolicy}
    {ready : Bool} {dependClusters : AList fun _ : String => WeightedCluster}
    (h : generatePipyOutboundTrafficBalancePolicy E clustersConfigs upstreamEndpoints otp dependClusters =
      .ok (otp', ready)) :
    otp'.namedTrafficMatches = otp.namedTrafficMatches := by
  have hkeep := foldlM_hom (fun acc : OutboundTrafficPolicy × Bool => acc.1.namedTrafficMatches)
    (addDependClusterConfig clustersConfigs upstreamEndpoints) (fun m _ => m)
    (fun acc cluster acc' hacc => ?_) _ (otp, true) (otp', ready) h
  · simpa using hkeep
  · unfold addDependClusterConfig at hacc
    split at hacc
    · cases hacc
      rfl
    · dsimp only at hacc
      split_ifs at hacc
      · cases hacc
        rfl
      · obtain ⟨cc, -, hcc⟩ := (map_eq_ok_iff _ _ _).mp hacc
        cases hcc
        rfl

/-- The outbound step writes the traffic matches the route generator made. -/
theorem outbound_traffic_matches {trafficMatches : List TrafficMatch} {otp : OutboundTrafficPolicy}
    (h : outbound E clustersConfigs upstreamEndpoints it pipyConf proxyIdentity httpRouteConfigsPerPort
      trafficMatches = .ok (some otp)) :
    ∃ otp₀ dependClusters, generatePipyOutboundTrafficRoutePolicy it pipyConf proxyIdentity
      httpRouteConfigsPerPort trafficMatches = .ok (some otp₀, dependClusters) ∧
      otp.namedTrafficMatches = otp₀.namedTrafficMatches := by
  unfold outbound at h
  cases hgen : generatePipyOutboundTrafficRoutePolicy it pipyConf proxyIdentity httpRouteConfigsPerPort
      trafficMatches with
  | error e => simp [hgen, bind, Except.bind] at h
  | ok routed =>
    obtain ⟨otp₀, dependClusters⟩ := routed
    cases otp₀ with
    | none => simp [hgen, bind, Except.bind] at h
    | some otp₀ =>
      refine ⟨otp₀, dependClusters, rfl, ?_⟩
      simp only [hgen, bind, Except.bind] at h
      split_ifs at h
      · obtain ⟨balanced, hbalance, hbalanced⟩ := (map_eq_ok_iff _ _ _).mp h
        cases hbalanced
        exact namedTrafficMatches_generatePipyOutboundTrafficBalancePolicy E clustersConfigs
          upstreamEndpoints hbalance
      · cases h
        rfl

theorem pipy_cluster_retry_first_route {trafficMatches : List TrafficMatch} {otp : OutboundTrafficPolicy}
    (h : outbound E clustersConfigs upstreamEndpoints it pipyConf proxyIdentity httpRouteConfigsPerPort
      trafficMatches = .ok (some otp))
    {c : String} {cc : ClusterConfigs} (hc : otp.ClustersConfigs.lookup c = some cc) :
    cc.RetryPolicy = if cc.Endpoints.isSome then
      ((((trafficMatches.flatMap (clusterVisits it httpRouteConfigsPerPort)).find?
        (·.ClusterName = c)).bind (·.RetryPolicy)).bind RetryPolicy.ofSpec?)
    else none := by
  unfold outbound at h
  cases hgen : generatePipyOutboundTrafficRoutePolicy it pipyConf proxyIdentity httpRouteConfigsPerPort
      trafficMatches with
  | error e => simp [hgen, bind, Except.bind] at h
  | ok routed =>
    obtain ⟨otp₀, dependClusters⟩ := routed
    have hdeps := dependClusters_generatePipyOutboundTrafficRoutePolicy it pipyConf proxyIdentity
      httpRouteConfigsPerPort hgen
    cases otp₀ with
    | none => simp [hgen, bind, Except.bind] at h
    | some otp₀ =>
      have hempty := ClustersConfigs_generatePipyOutboundTrafficRoutePolicy it pipyConf proxyIdentity
        httpRouteConfigsPerPort hgen
      simp only [hgen, bind, Except.bind] at h
      split_ifs at h with hsome
      · -- the clusters are configured: by the first cluster recorded under the name
        obtain ⟨balanced, hbalance, hbalanced⟩ := (map_eq_ok_iff _ _ _).mp h
        cases hbalanced
        obtain ⟨cluster, hcluster, hcc⟩ := lookup_ClustersConfigs_generatePipyOutboundTrafficBalancePolicy
          E clustersConfigs upstreamEndpoints
          (keys_generatePipyOutboundTrafficRoutePolicy it pipyConf proxyIdentity httpRouteConfigsPerPort hgen)
          hempty hbalance hc
        rw [hdeps, lookup_foldl_addDependCluster] at hcluster
        simp only [AList.lookup_empty, Option.none_or] at hcluster
        rw [hcc, hcluster]
        rfl
      · -- nothing recorded, nothing configured
        cases h
        simp [hempty] at hc

end balance

/-! ### A split apex and its backend -/

/-- Recorded clusters in the order of their names. -/
def clusterOrder : GoSet.Enumerator String := GoSet.Enumerator.sortedBy id Function.injective_id

/-- The apex `bookstore`, split wholly to `bookstore-v1`. -/
def apexMatch : TrafficMatch :=
  { Name := "outbound_default/bookstore_14001_http", DestinationPort := 14001,
    DestinationProtocol := "http", WeightedClusters := [⟨"default/bookstore-v1|14001", 100⟩] }

/-- The backend `bookstore-v1` as an upstream service of its own. -/
def v1Match : TrafficMatch :=
  { Name := "outbound_default/bookstore-v1_14001_http", DestinationPort := 14001,
    DestinationProtocol := "http", WeightedClusters := [⟨"default/bookstore-v1|14001", 100⟩] }

/-- A Retry policy's spec. -/
def retry5xx : RetryPolicySpec := ⟨"5xx", some 1000000000, some 3, some 25000000⟩

/-- The wildcard route to `bookstore-v1`. -/
def v1Route (retryPolicy : Option RetryPolicySpec) : OutboundRoute :=
  { HTTPRouteMatch := WildCardRouteMatch, WeightedClusters := {⟨"default/bookstore-v1|14001", 100⟩},
    RetryPolicy := retryPolicy }

/-- The route configurations of port 14001: the Retry policy names `bookstore-v1` only. -/
def retryRouteConfigs : AList fun _ : Int => List Trafficpolicy.OutboundTrafficPolicy :=
  (∅ : AList fun _ : Int => List Trafficpolicy.OutboundTrafficPolicy).insert 14001
    [⟨"bookstore.default.svc.cluster.local", ["bookstore"], [v1Route none]⟩,
     ⟨"bookstore-v1.default.svc.cluster.local", ["bookstore-v1"], [v1Route (some retry5xx)]⟩]

/-- `bookstore-v1`. -/
def bookstoreV1 : MeshService :=
  { Namespace := "default", Name := "bookstore-v1", Port := 14001, TargetPort := 14001, Protocol := "http" }

/-- Its mesh cluster configuration. -/
def v1ClusterConfig : MeshClusterConfig := ⟨"default/bookstore-v1|14001", bookstoreV1, "", 0⟩

/-- The outbound step for `bookbuyer`, the apex read first. -/
def retryOutbound : Except String (Option OutboundTrafficPolicy) :=
  outbound clusterOrder [v1ClusterConfig] (fun _ => [⟨"10.0.0.1", 100, "", "", ""⟩]) Rds.ascendingOrder
    ⟨none, false, ∅⟩ "bookbuyer.default" retryRouteConfigs [apexMatch, v1Match]

/-- The outbound part it writes. -/
def retryConf : OutboundTrafficPolicy :=
  match retryOutbound with
  | .ok (some otp) => otp
  | _ => .empty

/-- The Retry policy of `bookstore-v1` is lost: the cluster has endpoints and no retry policy,
    because the apex's route, without one, named the cluster first. -/
theorem pipy_cluster_retry_first_route_bookstore :
    ∃ cc, retryConf.ClustersConfigs.lookup "default/bookstore-v1|14001" = some cc ∧
      cc.Endpoints.isSome ∧ cc.RetryPolicy = none := by
  obtain ⟨cc, hc⟩ : ∃ cc, retryConf.ClustersConfigs.lookup "default/bookstore-v1|14001" = some cc :=
    Option.isSome_iff_exists.mp (by decide)
  have hendpoints : cc.Endpoints.isSome := by
    have hmap : (retryConf.ClustersConfigs.lookup "default/bookstore-v1|14001").map
        (·.Endpoints.isSome) = some true := by decide
    simpa [hc] using hmap
  refine ⟨cc, hc, hendpoints, ?_⟩
  rw [pipy_cluster_retry_first_route clusterOrder [v1ClusterConfig] (fun _ => [⟨"10.0.0.1", 100, "", "", ""⟩])
    Rds.ascendingOrder ⟨none, false, ∅⟩ "bookbuyer.default" retryRouteConfigs
    (show retryOutbound = .ok (some retryConf) from rfl) hc, if_pos hendpoints]
  decide

/-- Read the other way round, the backend's route names the cluster first and its policy
    holds. -/
example : ((match outbound clusterOrder [v1ClusterConfig] (fun _ => [⟨"10.0.0.1", 100, "", "", ""⟩])
    Rds.ascendingOrder ⟨none, false, ∅⟩ "bookbuyer.default" retryRouteConfigs [v1Match, apexMatch] with
    | .ok (some otp) => (otp.ClustersConfigs.lookup "default/bookstore-v1|14001").map (·.RetryPolicy)
    | _ => none) = some (some ⟨"5xx", 1000000000, some 3, 25000000⟩)) := by
  decide

end OsmEdge.Pipy.Outbound
