import OsmEdge.Lib.GoText

/-
  Mesh services (`pkg/service/types.go`) and the hostnames a service answers to
  (`k8s.GetHostnamesForService`, `pkg/k8s/util.go`).

  The names built here are the keys that tie the generated configuration together: the
  local cluster a route sends to, the traffic match a filter chain is named after, the
  hostnames a virtual host lists. `%d` of a `uint16` is its decimal text, and `%s` of a
  `MeshService` is its `String()` method, the `ToString` instance here. The trust domain
  that `GetHostnamesForService` reads is a package variable set at start-up
  (`SetTrustDomain`, default `cluster.local`); it is an argument here.
-/

namespace OsmEdge.Service

/-- `MeshService`; `ServiceImportUID` is set only for a service imported from another
    cluster. -/
structure MeshService where
  Namespace : String
  Name : String
  Port : UInt16
  TargetPort : UInt16
  Protocol : String
  ServiceImportUID : String := ""
  deriving DecidableEq, Repr

/-- `MeshService.String()`: `namespace/name`. -/
instance : ToString MeshService := ⟨fun ms => ms.Namespace ++ "/" ++ ms.Name⟩

namespace MeshService

variable (ms : MeshService)

/-- `SidecarClusterName`. -/
def SidecarClusterName : String :=
  ms.Namespace ++ "/" ++ ms.Name ++ "|" ++ toString ms.TargetPort

/-- `SidecarLocalClusterName`. -/
def SidecarLocalClusterName : String :=
  ms.Namespace ++ "/" ++ ms.Name ++ "|" ++ toString ms.TargetPort ++ "|local"

/-- `FQDN`. -/
def FQDN : String := ms.Name ++ "." ++ ms.Namespace ++ ".svc.cluster.local"

/-- `OutboundTrafficMatchName`. -/
def OutboundTrafficMatchName : String :=
  "outbound_" ++ toString ms ++ "_" ++ toString ms.Port ++ "_" ++ ms.Protocol

/-- `Subdomain`: the first label of a name with a dot, else empty. -/
def Subdomain : String :=
  match GoText.split '.' ms.Name.toList with
  | [_] => ""
  | nameComponents => String.ofList (nameComponents.headD [])

/-- `ProviderKey`: the last label of the name. -/
def ProviderKey : String :=
  String.ofList ((GoText.split '.' ms.Name.toList).getLast?.getD [])

/-- `IsMultiClusterService`. -/
def IsMultiClusterService : Bool := ms.ServiceImportUID.length > 0

/-- `InboundTrafficMatchName`. -/
def InboundTrafficMatchName : String :=
  "inbound_" ++ toString ms ++ "_" ++ toString ms.TargetPort ++ "_" ++ ms.Protocol

end MeshService

/-- `IngressTrafficMatchName`; the source names its first two parameters `name, namespace`
    and its callers pass `(ms.Namespace, ms.Name)`, so the text reads `name/namespace` of the
    arguments. -/
def IngressTrafficMatchName (name ns : String) (targetPort : UInt16) (protocol : String) :
    String :=
  "ingress_" ++ ns ++ "/" ++ name ++ "_" ++ toString targetPort ++ "_" ++ protocol

/-- `MeshService.IngressTrafficMatchName`. -/
def MeshService.IngressTrafficMatchName (ms : MeshService) : String :=
  Service.IngressTrafficMatchName ms.Namespace ms.Name ms.TargetPort ms.Protocol

/-- `AccessControlTrafficMatchName`; `GetAccessControlTrafficPolicy` passes
    `(svc.Name, svc.Namespace)`, so its text reads `namespace/name`. -/
def AccessControlTrafficMatchName (name ns : String) (targetPort : UInt16) (protocol : String) :
    String :=
  "acl_" ++ ns ++ "/" ++ name ++ "_" ++ toString targetPort ++ "_" ++ protocol

/-- `MeshService.AccessControlTrafficMatchName`. -/
def MeshService.AccessControlTrafficMatchName (ms : MeshService) : String :=
  Service.AccessControlTrafficMatchName ms.Namespace ms.Name ms.TargetPort ms.Protocol

/-- `ExportedServiceTrafficMatchName`. -/
def ExportedServiceTrafficMatchName (name ns : String) (targetPort : UInt16) (protocol : String) :
    String :=
  "exp_" ++ ns ++ "/" ++ name ++ "_" ++ toString targetPort ++ "_" ++ protocol

/-- A traffic match name, `prefix_service_port_protocol`, splits at `_` into at least four
    pieces, whatever `_` its parts hold. -/
theorem three_lt_length_split_name (pre svc port protocol : String) :
    3 < (GoText.split '_' (pre ++ "_" ++ svc ++ "_" ++ port ++ "_" ++ protocol).toList).length := by
  have h := GoText.three_lt_length_split '_' pre.toList svc.toList port.toList protocol.toList
  simpa [String.toList_append] using h

/-- `GetHostnamesForService`: the short names only for a caller in the service's namespace,
    then the namespaced names, then one name per label of the trust domain. -/
def GetHostnamesForService (trustDomain : String) (svc : MeshService) (localNamespace : Bool) :
    List String :=
  let port := toString svc.Port
  let hostnames := if localNamespace then [svc.Name, svc.Name ++ ":" ++ port] else []
  let hostnames := hostnames ++
    [svc.Name ++ "." ++ svc.Namespace,
     svc.Name ++ "." ++ svc.Namespace ++ ":" ++ port,
     svc.Name ++ "." ++ svc.Namespace ++ ".svc",
     svc.Name ++ "." ++ svc.Namespace ++ ".svc" ++ ":" ++ port]
  let segs := (GoText.split '.' trustDomain.toList).map String.ofList
  -- each non-empty label extends the running hostname by one more label
  let step := fun (acc : String × List String) (seg : String) =>
    if seg.length = 0 then acc
    else
      let hostname := acc.1 ++ "." ++ seg
      (hostname, acc.2 ++ [hostname, hostname ++ ":" ++ port])
  hostnames ++ (segs.foldl step (svc.Name ++ "." ++ svc.Namespace ++ ".svc", [])).2

/-- `splitHostName`: the service and the subdomain a hostname names, decided by how many
    labels it has once the port is cut off. For two and three labels the controller's
    namespace cache (`GetNamespace`, whether the namespace exists) tells a namespace from a
    service; `none` is a nil controller. -/
def splitHostName (c : Option (String → Bool)) (host : String) : String × String :=
  let host := (GoText.split ':' host.toList).headD []
  match (GoText.split '.' host).map String.ofList with
  | [svc] => (svc, "")
  | [p1, p2] =>
    match c with
    | none => (p1, "")
    -- a second label that is no namespace is the service of `subdomain.service`
    | some GetNamespace => if GetNamespace p2 then (p1, "") else (p2, p1)
  | [c0, c1, tld] =>
    match c with
    | none => if tld = "svc" then (c0, "") else (c1, c0)
    | some GetNamespace => if GetNamespace tld then (c1, c0) else (c0, "")
  | [c0, c1, _, _] => (c1, c0)
  | [c0, _, _, _, _] => (c0, "")
  | [c0, c1, _, _, _, _] => (c1, c0)
  | serviceComponents => (serviceComponents.headD "", "")

/-- `GetServiceFromHostname`. -/
def GetServiceFromHostname (c : Option (String → Bool)) (host : String) : String :=
  (splitHostName c host).1

/-- `GetSubdomainFromHostname`. -/
def GetSubdomainFromHostname (c : Option (String → Bool)) (host : String) : String :=
  (splitHostName c host).2

end OsmEdge.Service
