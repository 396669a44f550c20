import Mathlib.Data.String.Basic

/-
  The constants of `pkg/constants/constants.go` that modelled functions read.
-/

namespace OsmEdge.Constants

/-- `SidecarAdminPort`. -/
def SidecarAdminPort : Nat := 15000
/-- `SidecarOutboundListenerPort`. -/
def SidecarOutboundListenerPort : Nat := 15001
/-- `SidecarInboundListenerPort`. -/
def SidecarInboundListenerPort : Nat := 15003
/-- `SidecarPrometheusInboundListenerPort`. -/
def SidecarPrometheusInboundListenerPort : Nat := 15010
/-- `SidecarUID`. -/
def SidecarUID : Nat := 1500
/-- `LivenessProbePort`. -/
def LivenessProbePort : Nat := 15901
/-- `ReadinessProbePort`. -/
def ReadinessProbePort : Nat := 15902
/-- `StartupProbePort`. -/
def StartupProbePort : Nat := 15903
/-- `HealthcheckPort`. -/
def HealthcheckPort : Nat := 15904
/-- `LivenessProbePath`. -/
def LivenessProbePath : String := "/osm-liveness-probe"
/-- `ReadinessProbePath`. -/
def ReadinessProbePath : String := "/osm-readiness-probe"
/-- `StartupProbePath`. -/
def StartupProbePath : String := "/osm-startup-probe"
/-- `HealthcheckPath`. -/
def HealthcheckPath : String := "/osm-healthcheck"
/-- `LocalhostIPAddress`. -/
def LocalhostIPAddress : String := "127.0.0.1"
/-- `RegexMatchAll`. -/
def RegexMatchAll : String := ".*"
/-- `WildcardHTTPMethod`. -/
def WildcardHTTPMethod : String := "*"
/-- `ClusterWeightAcceptAll`. -/
def ClusterWeightAcceptAll : Int := 100
/-- `ClusterWeightFailOver`. -/
def ClusterWeightFailOver : Int := 0
/-- `ProtocolHTTP`. -/
def ProtocolHTTP : String := "http"
/-- `ProtocolHTTPS`. -/
def ProtocolHTTPS : String := "https"
/-- `ProtocolTCP`. -/
def ProtocolTCP : String := "tcp"
/-- `ProtocolGRPC`. -/
def ProtocolGRPC : String := "grpc"
/-- `ProtocolTCPServerFirst`. -/
def ProtocolTCPServerFirst : String := "tcp-server-first"

end OsmEdge.Constants
