import OsmEdge.Identity
import Mathlib.Data.Finset.Basic

/-
  The SMI resources the catalog reads, and the SMI client's lookups (`pkg/smi/client.go`).

  The client serves the contents of its informer caches, filtered by the namespaces the
  mesh monitors (a question the Kubernetes controller answers: `IsMonitoredNamespace`).
  A cache is a store keyed by `<namespace>/<name>`, so it is a list whose keys are
  distinct, and `MeshSpec` carries that as a field; a lookup by key (`GetByKey`) finds the
  object whose key is the one asked for.
-/

namespace OsmEdge.Catalog

open OsmEdge.Identity

/-- `ServiceAccountKind`. -/
def ServiceAccountKind : String := "ServiceAccount"
/-- `TCPRouteKind`. -/
def TCPRouteKind : String := "TCPRoute"
/-- `HTTPRouteGroupKind`. -/
def HTTPRouteGroupKind : String := "HTTPRouteGroup"

/-- `access.IdentityBindingSubject`. -/
structure IdentityBindingSubject where
  Kind : String
  Name : String
  Namespace : String
  deriving DecidableEq, Repr

/-- `access.TrafficTargetRule`. -/
structure TrafficTargetRule where
  Kind : String
  Name : String
  Matches : List String
  deriving DecidableEq, Repr

/-- `access.TrafficTargetSpec`. -/
structure TrafficTargetSpec where
  Destination : IdentityBindingSubject
  Sources : List IdentityBindingSubject
  Rules : List TrafficTargetRule
  deriving DecidableEq, Repr

/-- `access.TrafficTarget`. -/
structure TrafficTarget where
  Namespace : String
  Name : String
  Spec : TrafficTargetSpec
  deriving DecidableEq, Repr

/-- `specs.TCPRoute`; `Ports` are the `spec.matches.ports`, integers of any size. -/
structure TCPRoute where
  Namespace : String
  Name : String
  Ports : List Int
  deriving DecidableEq, Repr

/-- `specs.HTTPMatch`. -/
structure HTTPMatch where
  Name : String
  Methods : List String
  PathRegex : String
  Headers : Finset (String × String)
  deriving DecidableEq

/-- `specs.HTTPRouteGroup`; `Matches` is `none` for a `nil` slice. -/
structure HTTPRouteGroup where
  Namespace : String
  Name : String
  Matches : Option (List HTTPMatch)
  deriving DecidableEq

/-- The key of an object in an informer cache. -/
def namespacedKey (ns name : String) : String := ns ++ "/" ++ name

/-- The informer caches of the SMI client, each with distinct keys, and the namespaces the
    mesh monitors. -/
structure MeshSpec where
  trafficTargets : List TrafficTarget
  httpRouteGroups : List HTTPRouteGroup
  tcpRoutes : List TCPRoute
  IsMonitoredNamespace : String → Bool
  trafficTargets_keys : (trafficTargets.map fun t => namespacedKey t.Namespace t.Name).Nodup
  httpRouteGroups_keys : (httpRouteGroups.map fun g => namespacedKey g.Namespace g.Name).Nodup
  tcpRoutes_keys : (tcpRoutes.map fun r => namespacedKey r.Namespace r.Name).Nodup

/-- `TrafficTargetListOpt`: a destination filter, off when its name is empty. -/
structure TrafficTargetListOpt where
  Destination : K8sServiceAccount := { Namespace := "", Name := "" }

/-- `hasValidRules`. -/
def hasValidRules (rules : List TrafficTargetRule) : Bool :=
  rules.length ≠ 0 && rules.all fun rule => rule.Kind = HTTPRouteGroupKind || rule.Kind = TCPRouteKind

/-- `isValidTrafficTarget`. -/
def isValidTrafficTarget (trafficTarget : TrafficTarget) : Bool :=
  trafficTarget.Namespace = trafficTarget.Spec.Destination.Namespace &&
    hasValidRules trafficTarget.Spec.Rules

/-- `FilterTrafficTarget`. -/
def FilterTrafficTarget (trafficTarget : TrafficTarget) (o : TrafficTargetListOpt) : Bool :=
  !(o.Destination.Name ≠ "" &&
    (o.Destination.Namespace ≠ trafficTarget.Spec.Destination.Namespace ||
      o.Destination.Name ≠ trafficTarget.Spec.Destination.Name))

namespace MeshSpec

variable (ms : MeshSpec)

/-- `ListTrafficTargets`. -/
def ListTrafficTargets (o : TrafficTargetListOpt := {}) : List TrafficTarget :=
  ms.trafficTargets.filter fun t =>
    ms.IsMonitoredNamespace t.Namespace && isValidTrafficTarget t && FilterTrafficTarget t o

/-- `ListHTTPTrafficSpecs`. -/
def ListHTTPTrafficSpecs : List HTTPRouteGroup :=
  ms.httpRouteGroups.filter fun g => ms.IsMonitoredNamespace g.Namespace

/-- The lookup shared by `GetTCPRoute` and `GetHTTPRouteGroup`: the cached object with that
    key, unless its namespace is not monitored. -/
def getMonitoredByKey {α : Type} (cache : List α) (ns name : α → String) (namespacedName : String) :
    Option α :=
  match cache.find? (fun x => namespacedKey (ns x) (name x) = namespacedName) with
  | some x => if ms.IsMonitoredNamespace (ns x) then some x else none
  | none => none

/-- `GetTCPRoute`. -/
def GetTCPRoute (namespacedName : String) : Option TCPRoute :=
  ms.getMonitoredByKey ms.tcpRoutes (·.Namespace) (·.Name) namespacedName

/-- `GetHTTPRouteGroup`. -/
def GetHTTPRouteGroup (namespacedName : String) : Option HTTPRouteGroup :=
  ms.getMonitoredByKey ms.httpRouteGroups (·.Namespace) (·.Name) namespacedName

end MeshSpec

end OsmEdge.Catalog
