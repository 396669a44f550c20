import Mathlib.Data.String.Basic

/-
  Envoy's listener filter chains (`envoy.config.listener.v3`), in the fields the mesh sets on
  the chains the modelled builders make: the name, the match on the destination port and on
  the source or destination prefixes, and the one network filter, an HTTP connection
  manager, which takes its routes from the RDS route configuration it names, or a TCP proxy.
  The options of the HTTP connection manager (tracing, external authorization, WASM stats)
  are left out.
-/

namespace OsmEdge.Xds

/-- `core.CidrRange`. -/
structure CidrRange where
  AddressPrefix : String
  PrefixLen : UInt32
  deriving DecidableEq, Repr

/-- `FilterChainMatch`: the destination port, and the source or the destination prefixes. -/
structure FilterChainMatch where
  DestinationPort : UInt32
  SourcePrefixRanges : List CidrRange
  PrefixRanges : List CidrRange := []
  deriving DecidableEq, Repr

/-- Where a TCP proxy sends a connection: one cluster, or clusters by weight. -/
inductive TcpClusterSpecifier where
  | Cluster (cluster : String)
  | WeightedClusters (clusters : List (String × UInt32))
  deriving DecidableEq, Repr

/-- `tcp_proxy.TcpProxy`. -/
structure TcpProxy where
  StatPrefix : String
  ClusterSpecifier : TcpClusterSpecifier
  deriving DecidableEq, Repr

/-- The network filters the mesh puts on a chain: an HTTP connection manager, which takes
    its routes from the RDS route configuration it names, or a TCP proxy. -/
inductive Filter where
  | HTTPConnectionManager (rdsRouteConfigName : String)
  | TCPProxy (tcpProxy : TcpProxy)
  deriving DecidableEq, Repr

/-- `FilterChain`. -/
structure FilterChain where
  Name : String
  FilterChainMatch : FilterChainMatch
  Filters : List Filter
  deriving DecidableEq, Repr

/-- The route configuration of a chain whose one filter is an HTTP connection manager;
    empty for any other chain. -/
def FilterChain.RouteConfigName (fc : FilterChain) : String :=
  match fc.Filters with
  | [.HTTPConnectionManager rdsRouteConfigName] => rdsRouteConfigName
  | _ => ""

end OsmEdge.Xds
