import Mathlib.Data.Vector.Basic
import OsmEdge.Injector.Exclusions

/-
  The per-pod configuration the CNI pod watcher stores in the eBPF map `osm_pod_fib`
  (`pkg/cni/controller/podwatcher/pod.go`).

  `addFunc` parses the pod's annotations into a `podConfig` and stores it under the pod's
  IPv4 address. The lists of `podConfig` are C arrays of `maxItemLen` entries, zero after the
  last one written; the eBPF program reads each up to its first zero entry. An address is
  stored as the `uint32` Go reads from the address bytes in text order (`Ipv4.networkOrder`),
  and ports and prefix lengths as plain numbers.

  The parsers check an entry after `strings.TrimSpace` but parse the entry as it was, so an
  entry written with a space after the comma is dropped.
-/

namespace OsmEdge.Cni

open GoText OsmEdge.Injector

/-- `maxItemLen`. -/
def maxItemLen : Nat := 20

/-- `cidr`: a network as stored in the map, and its prefix length. -/
structure cidr where
  net : UInt32
  mask : UInt8
  deriving DecidableEq

/-- `podConfig`. -/
structure podConfig where
  statusPort : UInt16
  excludeOutRanges : List.Vector cidr maxItemLen
  includeOutRanges : List.Vector cidr maxItemLen
  includeInPorts : List.Vector UInt16 maxItemLen
  includeOutPorts : List.Vector UInt16 maxItemLen
  excludeInPorts : List.Vector UInt16 maxItemLen
  excludeOutPorts : List.Vector UInt16 maxItemLen

/-- A `[maxItemLen]T` array after `for i, p := range xs { if i >= maxItemLen { break };
    arr[i] = p }` on a zero array. -/
def fillItems {α : Type} (zero : α) (xs : List α) : List.Vector α maxItemLen :=
  ⟨List.ofFn fun i : Fin maxItemLen => xs.getD i zero, List.length_ofFn⟩

/-- `getPortsFromString`: the entries that are not blank and parse as a 16-bit number. The
    entry is parsed untrimmed. -/
def getPortsFromString (v : String) : List UInt16 :=
  (split ',' v.toList).filterMap fun vv =>
    if trimSpace vv ≠ [] then (parseUint vv 16).map UInt16.ofNat else none

/-- `getIPRangesFromString`: `*` is the network 0 with prefix 0; other entries that are not
    blank and parse as a CIDR give the network and its prefix length. The entry is parsed
    untrimmed. -/
def getIPRangesFromString (v : String) : List cidr :=
  (split ',' v.toList).filterMap fun vv =>
    if vv = ['*'] then some ⟨0, 0⟩
    else if trimSpace vv ≠ [] then
      (Ipv4.parseCIDR vv).map fun n => ⟨Ipv4.networkOrder n.1, UInt8.ofNat n.2⟩
    else none

/-- The inbound ports `parsePodConfigFromAnnotations` always excludes. -/
def defaultExcludeInboundPorts : List UInt16 :=
  [15000, 15001, 15003, 15010, 15021, 15050, 15128, 15901, 15902, 15903, 15904]

/-- `parsePodConfigFromAnnotations` into a zero `podConfig`. -/
def parsePodConfigFromAnnotations (annotations : Annotations) : podConfig :=
  let statusPort : Nat :=
    match annotations.lookup "openservicemesh.io/port" with
    | some v => (parseUint v.toList 16).getD 15021
    | none => 15021
  let ports (key : String) : List UInt16 :=
    ((annotations.lookup key).map getPortsFromString).getD []
  let ranges (key : String) : List cidr :=
    ((annotations.lookup key).map getIPRangesFromString).getD []
  { statusPort := UInt16.ofNat statusPort
    excludeInPorts :=
      fillItems 0 (defaultExcludeInboundPorts ++ ports "openservicemesh.io/inbound-port-exclusion-list")
    excludeOutPorts := fillItems 0 (ports "openservicemesh.io/outbound-port-exclusion-list")
    includeInPorts := fillItems 0 (ports "openservicemesh.io/inbound-port-inclusion-list")
    includeOutPorts := fillItems 0 (ports "openservicemesh.io/outbound-port-inclusion-list")
    excludeOutRanges := fillItems ⟨0, 0⟩ (ranges "openservicemesh.io/outbound-ip-range-exclusion-list")
    includeOutRanges := fillItems ⟨0, 0⟩ (ranges "openservicemesh.io/outbound-ip-range-inclusion-list") }

/-- The fields of a pod the watcher reads. -/
structure Pod where
  PodIP : String
  Labels : AList fun _ : String => String
  Annotations : Annotations

/-- `isInjectedSidecar`: the pod carries the label `osm-proxy-uuid`. -/
def isInjectedSidecar (pod : Pod) : Bool :=
  (pod.Labels.lookup "osm-proxy-uuid").isSome

/-- `addFunc` on `osm_pod_fib`: an injected pod with an IPv4 address gets its configuration
    stored under that address. -/
def addFunc (podFib : UInt32 → Option podConfig) (pod : Pod) : UInt32 → Option podConfig :=
  if pod.PodIP = "" then podFib
  else if !isInjectedSidecar pod then podFib
  else
    match Ipv4.parseIPv4 pod.PodIP.toList with
    | some ip =>
      Function.update podFib (Ipv4.networkOrder ip)
        (some (parsePodConfigFromAnnotations pod.Annotations))
    | none => podFib

end OsmEdge.Cni
