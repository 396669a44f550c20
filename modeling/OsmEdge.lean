import OsmEdge.Lib.GoText
import OsmEdge.Lib.GoStrconv
import OsmEdge.Lib.Uuid
import OsmEdge.Lib.Trace
import OsmEdge.Lib.GoSet
import OsmEdge.Lib.GoMap
import OsmEdge.Lib.Netfilter
import OsmEdge.Lib.Ipv4
import OsmEdge.Lib.Bytes
import OsmEdge.Lib.GoNet
import OsmEdge.Lib.GoNet.V4
import OsmEdge.Lib.ExceptLoop
import OsmEdge.Lib.GoJson
import OsmEdge.Lib.GoSort
import OsmEdge.Lib.Sched
import OsmEdge.Lib.GoTimer
import OsmEdge.Lib.Informer
import OsmEdge.Lib.LabelSelector
import OsmEdge.Lib.FirstWins
import OsmEdge.Lib.GoPtr
import OsmEdge.Identity
import OsmEdge.Constants
import OsmEdge.Service
import OsmEdge.Service.ClusterName
import OsmEdge.K8s.Hostname
import OsmEdge.Xds.Rbac
import OsmEdge.Xds.Route
import OsmEdge.Xds.Listener
import OsmEdge.Rbac.Policy
import OsmEdge.Trafficpolicy.Rules
import OsmEdge.Trafficpolicy.Heap
import OsmEdge.Catalog.Smi
import OsmEdge.Catalog.Inbound
import OsmEdge.Catalog.Backends
import OsmEdge.Catalog.Egress
import OsmEdge.Catalog.Outbound
import OsmEdge.Catalog.OutboundRoutes
import OsmEdge.Validator.Policy
import OsmEdge.Validator.Admission
import OsmEdge.Ticker.Resync
import OsmEdge.Messaging.Dispatcher
import OsmEdge.Certificate.Options
import OsmEdge.Certificate.Manager
import OsmEdge.Envoy.Proxy
import OsmEdge.Envoy.Ads.Stream
import OsmEdge.Envoy.Ads.Protocol
import OsmEdge.Envoy.Ads.CommonName
import OsmEdge.Envoy.Rds.Route
import OsmEdge.Envoy.Lds.Rbac
import OsmEdge.Envoy.Ingress
import OsmEdge.Envoy.Egress
import OsmEdge.Envoy.Outbound
import OsmEdge.Envoy.Rds.Outbound
import OsmEdge.Envoy.Authz
import OsmEdge.Injector.Iptables
import OsmEdge.Injector.Exclusions
import OsmEdge.Injector.Webhook
import OsmEdge.Cni.PodConfig
import OsmEdge.Bpf.Connect4
import OsmEdge.Pipy.Conf
import OsmEdge.Pipy.Inbound
import OsmEdge.Pipy.Mesh
import OsmEdge.Pipy.MatchNames
import OsmEdge.Pipy.Plugin
import OsmEdge.Pipy.Publish
import OsmEdge.Pipy.Outbound
import OsmEdge.Pipy.RoutePolicy
import OsmEdge.Pipy.HttpRouting
import OsmEdge.Pipy.InboundRouting
import OsmEdge.Injector.HealthProbes
import OsmEdge.Envoy.Probes
import OsmEdge.Pipy.Probes
import OsmEdge.Utils.Cidr
import OsmEdge.Utils.Cidr.Network
import OsmEdge.Utils.Cidr.Blocks
import OsmEdge.Utils.Cidr.SuperNetting
import OsmEdge.Utils.Cidr.ForEach
