import OsmEdge.Catalog.Outbound
import OsmEdge.Envoy.Ingress
import Mathlib.Data.List.Flatten

/-
  The outbound filter chains of a proxy's listener (`getOutboundFilterChainPerUpstream`,
  `pkg/sidecar/providers/envoy/lds/inmesh.go`): one chain per traffic match of the outbound
  mesh traffic policy, named after it and matching its port and destination ranges, with an
  HTTP connection manager for an HTTP or gRPC service and a TCP proxy to its weighted
  clusters for a TCP one.

  Envoy rejects a listener with two filter chains of one name or one match. An HTTP chain is
  the same for every traffic match of a service, and the catalog gives a service one traffic
  match per TrafficSplit it is the apex of.

  Proved:
  * `outbound_filter_chains_repeat`: for every downstream whose upstream services include an
    HTTP or gRPC service with an endpoint that is the apex of two or more TrafficSplits, the
    outbound chains hold one chain, named after the service, twice.
-/

namespace OsmEdge.Lds

open OsmEdge.Xds OsmEdge.Catalog OsmEdge.Trafficpolicy OsmEdge.Service OsmEdge.Identity
open OsmEdge.Constants GoText

/-- `OutboundRouteConfigName`. -/
def OutboundRouteConfigName : String := "rds-outbound"

/-- `GetOutboundMeshRouteConfigNameForPort`. -/
def GetOutboundMeshRouteConfigNameForPort (port : Int) : String :=
  OutboundRouteConfigName ++ "." ++ toString port

/-- `outboundMeshTCPProxyStatPrefix`. -/
def outboundMeshTCPProxyStatPrefix : String := "outbound-mesh-tcp-proxy"

/-- `getOutboundFilterChainMatchForService`: the port and the destination ranges that parse;
    an error without ranges. -/
def getOutboundFilterChainMatchForService (trafficMatch : TrafficMatch) :
    Except String FilterChainMatch :=
  if trafficMatch.DestinationIPRanges.length = 0 then
    .error ("Destination IP ranges not specified for mesh upstream traffic match " ++ trafficMatch.Name)
  else
    .ok { DestinationPort := UInt32.ofInt trafficMatch.DestinationPort, SourcePrefixRanges := []
          PrefixRanges := trafficMatch.DestinationIPRanges.filterMap fun ipRange =>
            match GetCIDRRangeFromStr ipRange with
            | .ok cidr => some cidr
            | .error _ => none }

/-- `getOutboundHTTPFilterChainForService`: an HTTP connection manager reading the route
    configuration of the port. -/
def getOutboundHTTPFilterChainForService (trafficMatch : TrafficMatch) : Except String FilterChain :=
  (getOutboundFilterChainMatchForService trafficMatch).map fun filterChainMatch =>
    { Name := trafficMatch.Name
      Filters := [.HTTPConnectionManager (GetOutboundMeshRouteConfigNameForPort trafficMatch.DestinationPort)]
      FilterChainMatch := filterChainMatch }

/-- `getOutboundTCPFilter`: a TCP proxy to the one cluster, or to the clusters by weight; an
    error without clusters. -/
def getOutboundTCPFilter (trafficMatch : TrafficMatch) : Except String Filter :=
  let statPrefix := outboundMeshTCPProxyStatPrefix ++ "_" ++ trafficMatch.Name
  let clusterSpecifier : Except String TcpClusterSpecifier :=
    match trafficMatch.WeightedClusters with
    | [] => .error ("At least 1 cluster must be configured for an upstream TCP service. None set for traffic match " ++
        trafficMatch.Name)
    | [cluster] => .ok (.Cluster cluster.ClusterName)
    | clusters => .ok (.WeightedClusters (clusters.map fun cluster =>
        (cluster.ClusterName, UInt32.ofInt cluster.Weight)))
  clusterSpecifier.map fun spec => .TCPProxy { StatPrefix := statPrefix, ClusterSpecifier := spec }

/-- `getOutboundTCPFilterChainForService`. -/
def getOutboundTCPFilterChainForService (trafficMatch : TrafficMatch) : Except String FilterChain :=
  match getOutboundTCPFilter trafficMatch, getOutboundFilterChainMatchForService trafficMatch with
  | .ok filter, .ok filterChainMatch =>
    .ok { Name := trafficMatch.Name, Filters := [filter], FilterChainMatch := filterChainMatch }
  | .error e, _ => .error e
  | _, .error e => .error e

/-- The chain of one traffic match, by its protocol; none when building it fails or the
    protocol is not supported. -/
def outboundFilterChainOf (trafficMatch : TrafficMatch) : Option FilterChain :=
  let protocol := toLower trafficMatch.DestinationProtocol
  if protocol = ProtocolHTTP ∨ protocol = ProtocolGRPC then
    (getOutboundHTTPFilterChainForService trafficMatch).toOption
  else if protocol = ProtocolTCP ∨ protocol = ProtocolTCPServerFirst then
    (getOutboundTCPFilterChainForService trafficMatch).toOption
  else none

/-- `getOutboundFilterChainPerUpstream`: a chain for every traffic match of the outbound mesh
    traffic policy. -/
def getOutboundFilterChainPerUpstream (cat : OutboundCatalog) (targetPortOrder : GoSet.Enumerator UInt16)
    (serviceIdentity : ServiceIdentity) : Except String (List FilterChain) :=
  (cat.GetOutboundMeshTrafficPolicy targetPortOrder serviceIdentity).map fun outboundMeshTrafficPolicy =>
    outboundMeshTrafficPolicy.TrafficMatches.filterMap outboundFilterChainOf

/-! ## Chains of one service -/

section httpChain

variable (cat : OutboundCatalog) (targetPortOrder : GoSet.Enumerator UInt16)

/-- The HTTP chain of an upstream service, the same for every route match. -/
def httpChainOf (meshSvc : MeshService) : FilterChain :=
  { Name := meshSvc.OutboundTrafficMatchName
    Filters := [.HTTPConnectionManager (GetOutboundMeshRouteConfigNameForPort meshSvc.Port.toNat)]
    FilterChainMatch :=
      { DestinationPort := UInt32.ofInt meshSvc.Port.toNat, SourcePrefixRanges := []
        PrefixRanges := (cat.destinationIPRangesOf meshSvc).filterMap fun ipRange =>
          match GetCIDRRangeFromStr ipRange with
          | .ok cidr => some cidr
          | .error _ => none } }

/-- A service with an endpoint has destination ranges. -/
theorem destinationIPRangesOf_ne_nil {meshSvc : MeshService}
    (h : cat.getDNSResolvableServiceEndpoints meshSvc ≠ []) : cat.destinationIPRangesOf meshSvc ≠ [] := by
  obtain ⟨ep, hep⟩ := List.exists_mem_of_ne_nil _ h
  have hmem : ep ++ "/32" ∈ cat.destinationIPRangesOf meshSvc :=
    GoSet.mem_collectNew.mpr (List.mem_map_of_mem hep)
  exact List.ne_nil_of_mem hmem

/-- A traffic match of HTTP or gRPC gets the HTTP chain. -/
theorem outboundFilterChainOf_of_http (trafficMatch : TrafficMatch)
    (h : toLower trafficMatch.DestinationProtocol = ProtocolHTTP ∨
      toLower trafficMatch.DestinationProtocol = ProtocolGRPC) :
    outboundFilterChainOf trafficMatch = (getOutboundHTTPFilterChainForService trafficMatch).toOption := by
  rw [outboundFilterChainOf]
  exact if_pos h

/-- With destination ranges the HTTP chain is built. -/
theorem getOutboundHTTPFilterChainForService_ok (trafficMatch : TrafficMatch)
    (h : trafficMatch.DestinationIPRanges ≠ []) :
    getOutboundHTTPFilterChainForService trafficMatch = .ok
      { Name := trafficMatch.Name
        Filters := [.HTTPConnectionManager (GetOutboundMeshRouteConfigNameForPort trafficMatch.DestinationPort)]
        FilterChainMatch :=
          { DestinationPort := UInt32.ofInt trafficMatch.DestinationPort, SourcePrefixRanges := []
            PrefixRanges := trafficMatch.DestinationIPRanges.filterMap fun ipRange =>
              match GetCIDRRangeFromStr ipRange with
              | .ok cidr => some cidr
              | .error _ => none } } := by
  have hlen : trafficMatch.DestinationIPRanges.length ≠ 0 := by simpa using h
  simp only [getOutboundHTTPFilterChainForService, getOutboundFilterChainMatchForService, if_neg hlen]
  rfl

/-- Every traffic match of an HTTP or gRPC service with an endpoint gives the service's HTTP
    chain, whatever its weighted clusters. -/
theorem outboundFilterChainOf_trafficMatchFor {meshSvc : MeshService}
    (hhttp : toLower meshSvc.Protocol = ProtocolHTTP ∨ toLower meshSvc.Protocol = ProtocolGRPC)
    (hendpoints : cat.getDNSResolvableServiceEndpoints meshSvc ≠ [])
    (routeMatch : HTTPRouteMatchWithWeightedClusters) :
    outboundFilterChainOf (cat.trafficMatchFor meshSvc routeMatch) = some (httpChainOf cat meshSvc) := by
  let trafficMatch := cat.trafficMatchFor meshSvc routeMatch
  rw [outboundFilterChainOf_of_http trafficMatch hhttp,
    getOutboundHTTPFilterChainForService_ok trafficMatch (destinationIPRangesOf_ne_nil cat hendpoints)]
  rfl

/-- A service that is the apex of two or more TrafficSplits has as many route matches. -/
theorem length_routeMatchesOf {meshSvc : MeshService} (hsplits : 0 < (cat.ListTrafficSplits meshSvc).length) :
    (cat.routeMatchesOf targetPortOrder meshSvc).length = (cat.ListTrafficSplits meshSvc).length := by
  simp [OutboundCatalog.routeMatchesOf, hsplits]

end httpChain

/-- A downstream whose upstream services include an HTTP or gRPC service with an endpoint that
    is the apex of two or more TrafficSplits gets one outbound chain, named after the service,
    twice: two chains of one name and one match. -/
theorem outbound_filter_chains_repeat (cat : OutboundCatalog) (targetPortOrder : GoSet.Enumerator UInt16)
    (serviceIdentity : ServiceIdentity) (source : K8sServiceAccount) (services : List MeshService)
    (hsource : serviceIdentity.ToK8sServiceAccount = .ok source)
    (hservices : cat.ListOutboundServicesForIdentity serviceIdentity = .ok services)
    (meshSvc : MeshService) (hmem : meshSvc ∈ services)
    (hhttp : toLower meshSvc.Protocol = ProtocolHTTP ∨ toLower meshSvc.Protocol = ProtocolGRPC)
    (hendpoints : cat.getDNSResolvableServiceEndpoints meshSvc ≠ [])
    (hsplits : 2 ≤ (cat.ListTrafficSplits meshSvc).length) :
    ∃ filterChains fc, getOutboundFilterChainPerUpstream cat targetPortOrder serviceIdentity = .ok filterChains ∧
      fc.Name = meshSvc.OutboundTrafficMatchName ∧ [fc, fc].Sublist filterChains := by
  -- the service's traffic matches all give its HTTP chain
  have hchains : (cat.trafficMatchesOf targetPortOrder meshSvc).filterMap outboundFilterChainOf =
      List.replicate (cat.ListTrafficSplits meshSvc).length (httpChainOf cat meshSvc) := by
    have hsame : ∀ routeMatch ∈ cat.routeMatchesOf targetPortOrder meshSvc,
        (outboundFilterChainOf ∘ cat.trafficMatchFor meshSvc) routeMatch = some (httpChainOf cat meshSvc) :=
      fun routeMatch _ => outboundFilterChainOf_trafficMatchFor cat hhttp hendpoints routeMatch
    rw [OutboundCatalog.trafficMatchesOf, List.filterMap_map, List.filterMap_congr hsame,
      List.filterMap_eq_map', List.map_const', length_routeMatchesOf cat targetPortOrder (by omega)]
  -- and they are part of all the traffic matches
  have hsub : (cat.trafficMatchesOf targetPortOrder meshSvc).Sublist
      (services.flatMap (cat.trafficMatchesOf targetPortOrder)) :=
    List.sublist_flatten_of_mem (List.mem_map_of_mem hmem)
  refine ⟨(services.flatMap (cat.trafficMatchesOf targetPortOrder)).filterMap outboundFilterChainOf,
    httpChainOf cat meshSvc, ?_, rfl, ?_⟩
  · simp [getOutboundFilterChainPerUpstream, OutboundCatalog.GetOutboundMeshTrafficPolicy, hsource, hservices]
  · have htwo : [httpChainOf cat meshSvc, httpChainOf cat meshSvc].Sublist
        (List.replicate (cat.ListTrafficSplits meshSvc).length (httpChainOf cat meshSvc)) :=
      (List.replicate_sublist_replicate _).mpr hsplits
    exact htwo.trans (hchains ▸ hsub.filterMap _)

/-- The service `demo/bookstore`, the apex of two TrafficSplits, gets its chain twice on the
    proxy of `bookbuyer.demo`. -/
theorem outbound_filter_chains_repeat_bookstore :
    ∃ filterChains fc,
      getOutboundFilterChainPerUpstream bookstoreCatalog ascendingTargetPorts "bookbuyer.demo" = .ok filterChains ∧
      fc.Name = bookstore.OutboundTrafficMatchName ∧ [fc, fc].Sublist filterChains :=
  outbound_filter_chains_repeat bookstoreCatalog ascendingTargetPorts "bookbuyer.demo"
    { Namespace := "demo", Name := "bookbuyer" } [bookstore] (by decide) (by decide) bookstore
    (List.mem_singleton_self _) (by decide) (by decide) (by decide)

end OsmEdge.Lds
