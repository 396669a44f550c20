import OsmEdge.Envoy.Rds.Route
import OsmEdge.Lib.GoText
import OsmEdge.Lib.ExceptLoop

/-
  The inbound part of the configuration the Pipy sidecar runs on (`PipyConf`,
  `pkg/sidecar/providers/pipy/repo/types.go`) and the methods that fill it (`policy.go`).

  The Go code fills the configuration through pointers into its maps and slices. The model
  reads the entry, changes it and writes it back (`setTrafficMatch`, `setRouteRules`,
  `modifyRule`), which is the same as long as no pointer outlives the write that replaces its
  entry, as in the generators. A run that dereferences a nil pointer or indexes past the end
  of a slice panics: the functions that can panic return `Except String`, the error being
  Go's panic message.

  Every slice and map the generators build is either nil or has an element (each is created
  where its first element is added), so a list or an association list stands for it, the
  empty one for nil.

  `addMethodMatch` and `addAllowedService` are one method on two fields (`addUnlessAny`):
  a list that the wildcard `*` clears and freezes (`foldl_addUnlessAny`).
-/

namespace OsmEdge.Pipy

open OsmEdge.Constants GoText

/-- Go's panic on a nil pointer. -/
def errNilDereference : String := ExceptLoop.nilDereference

/-- Go's panic on an index past the end of a slice. -/
def errIndexOutOfRange (i n : Nat) : String := ExceptLoop.indexOutOfRange i n

/-! ## The configuration -/

/-- `URIMatchType`. -/
inductive URIMatchType where
  | PathMatchRegex
  | PathMatchExact
  | PathMatchPrefix
  deriving DecidableEq, Repr

/-- `HTTPMatchRule`, with its two unexported flags, which `reflect.DeepEqual` compares too;
    `MatchType` is the field `Type`. -/
structure HTTPMatchRule where
  Path : String
  MatchType : URIMatchType
  Headers : Finset (String × String)
  Methods : List String
  allowedAnyService : Bool
  allowedAnyMethod : Bool
  deriving DecidableEq

/-- `InboundHTTPRouteRule`: the embedded `HTTPRouteRule`; the rate limit is left out. -/
structure InboundHTTPRouteRule where
  HTTPMatchRule : HTTPMatchRule
  TargetClusters : AList fun _ : String => UInt32
  AllowedServices : List String

/-- `InboundHTTPRouteRules`; the rate limit is left out. -/
structure InboundHTTPRouteRules where
  RouteRules : List InboundHTTPRouteRule
  Plugins : AList fun _ : String => String
  AllowedEndpoints : AList fun _ : String => String

/-- `SourceSecuritySpec`. -/
structure SourceSecuritySpec where
  MTLS : Bool
  SkipClientCertValidation : Bool
  AuthenticatedPrincipals : List String
  deriving DecidableEq, Repr

/-- `InboundTCPServiceRouteRules`. -/
structure InboundTCPServiceRouteRules where
  TargetClusters : AList fun _ : String => UInt32
  Plugins : AList fun _ : String => String

/-- `InboundTrafficMatch`; the TCP rate limit is left out. A source range maps to a
    security spec or to nil. -/
structure InboundTrafficMatch where
  Port : UInt16
  Protocol : String
  SourceIPRanges : AList fun _ : String => Option SourceSecuritySpec
  HTTPHostPort2Service : AList fun _ : String => String
  HTTPServiceRouteRules : AList fun _ : String => InboundHTTPRouteRules
  TCPServiceRouteRules : Option InboundTCPServiceRouteRules

/-- `InboundTrafficPolicy`: the traffic matches by port, and the endpoints of each local
    cluster with their weights (`WeightedEndpoint`). -/
structure InboundTrafficPolicy where
  TrafficMatches : AList fun _ : UInt16 => InboundTrafficMatch
  ClustersConfigs : AList fun _ : String => AList fun _ : String => UInt32

/-- `PipyConf`, in the fields the inbound generators read and write: the inbound policy,
    the permissive mode of the MeshConfig and the plugin configurations by mesh service,
    plugin and mount point. -/
structure PipyConf where
  Inbound : Option InboundTrafficPolicy
  enablePermissiveTrafficPolicyMode : Bool
  pluginPolicies : AList fun _ : String => AList fun _ : String => AList fun _ : String => String

/-! ## Wildcard lists -/

/-- The body of `addMethodMatch` and `addAllowedService`: nothing changes once the wildcard
    was seen; the wildcard clears the list. -/
def addUnlessAny (st : Bool × List String) (x : String) : Bool × List String :=
  if st.1 then st
  else if x = "*" then (true, [])
  else (false, st.2 ++ [x])

/-- Adding the elements of `xs` one by one to an empty list keeps them all, or clears the
    list if one of them is the wildcard. -/
theorem foldl_addUnlessAny (xs : List String) :
    ∀ acc : List String, "*" ∉ acc →
      xs.foldl addUnlessAny (false, acc) = if "*" ∈ xs then (true, []) else (false, acc ++ xs) := by
  induction xs with
  | nil => intro acc _; simp
  | cons x xs ih =>
    intro acc hacc
    by_cases hx : x = "*"
    · -- from the wildcard on, the state is frozen
      have hfrozen : ∀ ys : List String, ys.foldl addUnlessAny (true, []) = (true, []) := by
        intro ys
        induction ys with
        | nil => rfl
        | cons y ys ihy => simpa [addUnlessAny] using ihy
      simp [addUnlessAny, hx, hfrozen]
    · have hacc' : "*" ∉ acc ++ [x] := by simp [hacc, Ne.symm hx]
      simp only [List.foldl_cons, addUnlessAny, hx, if_false, Bool.false_eq_true]
      rw [ih _ hacc']
      simp [Ne.symm hx]

/-- `HTTPMatchRule.addMethodMatch`. -/
def HTTPMatchRule.addMethodMatch (m : HTTPMatchRule) (method : String) : HTTPMatchRule :=
  let st := addUnlessAny (m.allowedAnyMethod, m.Methods) method
  { m with allowedAnyMethod := st.1, Methods := st.2 }

/-- `HTTPRouteRule.addAllowedService`, on the flag of the embedded match rule. -/
def InboundHTTPRouteRule.addAllowedService (r : InboundHTTPRouteRule) (serviceName : String) :
    InboundHTTPRouteRule :=
  let st := addUnlessAny (r.HTTPMatchRule.allowedAnyService, r.AllowedServices) serviceName
  { r with HTTPMatchRule := { r.HTTPMatchRule with allowedAnyService := st.1 },
           AllowedServices := st.2 }

/-- Allowing services one by one runs `addUnlessAny` on the rule's flag and services. -/
theorem foldl_addAllowedService (xs : List String) : ∀ r : InboundHTTPRouteRule,
    xs.foldl InboundHTTPRouteRule.addAllowedService r =
      let st := xs.foldl addUnlessAny (r.HTTPMatchRule.allowedAnyService, r.AllowedServices)
      { r with HTTPMatchRule := { r.HTTPMatchRule with allowedAnyService := st.1 },
               AllowedServices := st.2 } := by
  induction xs with
  | nil => intro r; rfl
  | cons x xs ih =>
    intro r
    rw [List.foldl_cons, ih]
    rfl

/-- `HTTPRouteRule.addWeightedCluster`. -/
def InboundHTTPRouteRule.addWeightedCluster (r : InboundHTTPRouteRule) (clusterName : String)
    (weight : UInt32) : InboundHTTPRouteRule :=
  { r with TargetClusters := r.TargetClusters.insert clusterName weight }

/-! ## Route rules -/

/-- Changing the element after a list changes the last element. -/
theorem modify_length_append {α : Type*} (f : α → α) (a : α) :
    ∀ l : List α, (l ++ [a]).modify l.length f = l ++ [f a]
  | [] => rfl
  | x :: l => by simp [modify_length_append f a l]

namespace InboundHTTPRouteRules

/-- `newHTTPServiceRouteRule`: the index of the first rule whose match rule is deeply equal
    to `matchRule`, and `true`; or a new rule appended, its index, and `false`. -/
def newHTTPServiceRouteRule (hrrs : InboundHTTPRouteRules) (matchRule : HTTPMatchRule) :
    InboundHTTPRouteRules × Nat × Bool :=
  match hrrs.RouteRules.findIdx? (fun r => decide (r.HTTPMatchRule = matchRule)) with
  | some i => (hrrs, i, true)
  | none =>
    ({ hrrs with RouteRules := hrrs.RouteRules ++ [⟨matchRule, ∅, []⟩] }, hrrs.RouteRules.length, false)

/-- A change through the pointer to rule `i`. -/
def modifyRule (hrrs : InboundHTTPRouteRules) (i : Nat)
    (f : InboundHTTPRouteRule → InboundHTTPRouteRule) : InboundHTTPRouteRules :=
  { hrrs with RouteRules := hrrs.RouteRules.modify i f }

/-- `addAllowedEndpoint`: the first service named for an address stays. -/
def addAllowedEndpoint (hrrs : InboundHTTPRouteRules) (address serviceName : String) :
    InboundHTTPRouteRules :=
  if address ∈ hrrs.AllowedEndpoints then hrrs
  else { hrrs with AllowedEndpoints := hrrs.AllowedEndpoints.insert address serviceName }

@[simp] theorem modifyRule_RouteRules (hrrs : InboundHTTPRouteRules) (i : Nat)
    (f : InboundHTTPRouteRule → InboundHTTPRouteRule) :
    (hrrs.modifyRule i f).RouteRules = hrrs.RouteRules.modify i f := rfl

@[simp] theorem addAllowedEndpoint_RouteRules (hrrs : InboundHTTPRouteRules)
    (address serviceName : String) :
    (hrrs.addAllowedEndpoint address serviceName).RouteRules = hrrs.RouteRules := by
  unfold addAllowedEndpoint
  split <;> rfl

/-- A new rule is the last one, at the old length. -/
theorem newHTTPServiceRouteRule_of_new {hrrs : InboundHTTPRouteRules} {matchRule : HTTPMatchRule}
    (hnew : ∀ r ∈ hrrs.RouteRules, r.HTTPMatchRule ≠ matchRule) :
    hrrs.newHTTPServiceRouteRule matchRule =
      ({ hrrs with RouteRules := hrrs.RouteRules ++ [⟨matchRule, ∅, []⟩] },
        hrrs.RouteRules.length, false) := by
  have hnone : hrrs.RouteRules.findIdx? (fun r => decide (r.HTTPMatchRule = matchRule)) = none := by
    simpa [List.findIdx?_eq_none_iff] using hnew
  simp [newHTTPServiceRouteRule, hnone]

end InboundHTTPRouteRules

/-! ## Traffic matches -/

namespace InboundTrafficMatch

/-- `new(InboundTrafficMatch)`. -/
def empty : InboundTrafficMatch := ⟨0, "", ∅, ∅, ∅, none⟩

/-- `setProtocol`: lowered, with `tcp-server-first` served as `tcp`. -/
def setProtocol (tm : InboundTrafficMatch) (protocol : String) : InboundTrafficMatch :=
  let protocol := toLower protocol
  { tm with Protocol := if ProtocolTCPServerFirst = protocol then ProtocolTCP else protocol }

/-- `setPort`. -/
def setPort (tm : InboundTrafficMatch) (port : UInt16) : InboundTrafficMatch :=
  { tm with Port := port }

/-- `addSourceIPRange`: the first spec given for a range stays. -/
def addSourceIPRange (tm : InboundTrafficMatch) (ipRange : String)
    (sourceSpec : Option SourceSecuritySpec) : InboundTrafficMatch :=
  if ipRange ∈ tm.SourceIPRanges then tm
  else { tm with SourceIPRanges := tm.SourceIPRanges.insert ipRange sourceSpec }

/-- `addHTTPHostPort2Service`. -/
def addHTTPHostPort2Service (tm : InboundTrafficMatch) (hostPort ruleName : String) :
    InboundTrafficMatch :=
  { tm with HTTPHostPort2Service := tm.HTTPHostPort2Service.insert hostPort ruleName }

/-- `newHTTPServiceRouteRules`: nil for an empty name, else the rules of that name, new
    ones if there are none yet. -/
def newHTTPServiceRouteRules (tm : InboundTrafficMatch) (httpRouteRuleName : String) :
    Option InboundHTTPRouteRules :=
  if httpRouteRuleName.length = 0 then none
  else some ((tm.HTTPServiceRouteRules.lookup httpRouteRuleName).getD ⟨[], ∅, ∅⟩)

/-- `newTCPServiceRouteRules`: the TCP route rules, new ones if there are none. -/
def newTCPServiceRouteRules (tm : InboundTrafficMatch) : InboundTCPServiceRouteRules :=
  tm.TCPServiceRouteRules.getD ⟨∅, ∅⟩

/-- Writing the TCP route rules back. -/
def setTCPServiceRouteRules (tm : InboundTrafficMatch) (tsrr : InboundTCPServiceRouteRules) :
    InboundTrafficMatch :=
  { tm with TCPServiceRouteRules := some tsrr }

/-- Writing the route rules of a name back. -/
def setRouteRules (tm : InboundTrafficMatch) (httpRouteRuleName : String)
    (hrrs : InboundHTTPRouteRules) : InboundTrafficMatch :=
  { tm with HTTPServiceRouteRules := tm.HTTPServiceRouteRules.insert httpRouteRuleName hrrs }

end InboundTrafficMatch

namespace InboundTrafficPolicy

/-- `getTrafficMatch`. -/
def getTrafficMatch (itp : InboundTrafficPolicy) (port : UInt16) : Option InboundTrafficMatch :=
  itp.TrafficMatches.lookup port

/-- `newTrafficMatch`: the traffic match of a port, a new one if there is none. -/
def newTrafficMatch (itp : InboundTrafficPolicy) (port : UInt16) : InboundTrafficMatch :=
  (itp.getTrafficMatch port).getD InboundTrafficMatch.empty

/-- Writing a traffic match back. -/
def setTrafficMatch (itp : InboundTrafficPolicy) (port : UInt16) (tm : InboundTrafficMatch) :
    InboundTrafficPolicy :=
  { itp with TrafficMatches := itp.TrafficMatches.insert port tm }

end InboundTrafficPolicy

/-- `InboundTCPServiceRouteRules.addWeightedCluster`. -/
def InboundTCPServiceRouteRules.addWeightedCluster (srr : InboundTCPServiceRouteRules)
    (clusterName : String) (weight : UInt32) : InboundTCPServiceRouteRules :=
  { srr with TargetClusters := srr.TargetClusters.insert clusterName weight }

/-! ## Cluster endpoints -/

/-- `addrWithPort.MatchString`, the pattern `:\d+$`: the address ends in a colon and at least
    one decimal digit. -/
def addrWithPort (address : List Char) : Bool :=
  match address.reverse.span Char.isDigit with
  | (digits, ':' :: _) => !digits.isEmpty
  | _ => false

/-- `WeightedEndpoint.addWeightedEndpoint`: an address that carries its port is the key as it
    is; any other address gets the port appended. -/
def addWeightedEndpoint (we : AList fun _ : String => UInt32) (address : String) (port : UInt16)
    (weight : UInt32) : AList fun _ : String => UInt32 :=
  if addrWithPort address.toList then we.insert address weight
  else we.insert (address ++ ":" ++ toString port) weight

namespace InboundTrafficPolicy

/-- `newClusterConfigs`: the endpoints of a cluster, an empty map if there are none. -/
def newClusterConfigs (itp : InboundTrafficPolicy) (clusterName : String) :
    AList fun _ : String => UInt32 :=
  (itp.ClustersConfigs.lookup clusterName).getD ∅

/-- Writing the endpoints of a cluster back. -/
def setClusterConfigs (itp : InboundTrafficPolicy) (clusterName : String)
    (we : AList fun _ : String => UInt32) : InboundTrafficPolicy :=
  { itp with ClustersConfigs := itp.ClustersConfigs.insert clusterName we }

end InboundTrafficPolicy

/-- `newInboundTrafficPolicy`. -/
def PipyConf.newInboundTrafficPolicy (p : PipyConf) : InboundTrafficPolicy :=
  p.Inbound.getD ⟨∅, ∅⟩

/-! ## Plugins -/

/-- `getTrafficMatchPluginConfigs`: the traffic match name is split at `_`; its second
    piece names the mesh service, its first the direction (`exp` is `inbound`) and its fourth
    the protocol of the mount point. The configurations of the mount point, by plugin. -/
def PipyConf.getTrafficMatchPluginConfigs (p : PipyConf) (trafficMatch : String) :
    Except String (AList fun _ : String => String) :=
  let segs := (split '_' trafficMatch.toList).map String.ofList
  if segs.length ≤ 1 then .error (errIndexOutOfRange 1 segs.length)
  else
    let meshSvc := segs.getD 1 ""
    let direct := if segs.getD 0 "" = "exp" then "inbound" else segs.getD 0 ""
    if segs.length ≤ 3 then .error (errIndexOutOfRange 3 segs.length)
    else
      let mountPoint := direct ++ "-" ++ segs.getD 3 ""
      match p.pluginPolicies.lookup meshSvc with
      | none => .ok ∅
      | some plugin2MountPoint2Config =>
        .ok (plugin2MountPoint2Config.entries.foldl (fun pluginConfigs e =>
          match e.2.lookup mountPoint with
          | some config => pluginConfigs.insert e.1 config
          | none => pluginConfigs) ∅)

/-- The lookup cannot fail on a name with at least three separators. -/
theorem PipyConf.getTrafficMatchPluginConfigs_ok (p : PipyConf) (name : String)
    (h : 3 < (split '_' name.toList).length) :
    ∃ plugins, p.getTrafficMatchPluginConfigs name = .ok plugins := by
  unfold PipyConf.getTrafficMatchPluginConfigs
  have h1 : ¬ ((split '_' name.toList).map String.ofList).length ≤ 1 := by simp; omega
  have h3 : ¬ ((split '_' name.toList).map String.ofList).length ≤ 3 := by simp; omega
  simp only [h1, h3, if_false]
  split <;> exact ⟨_, rfl⟩

/-- The lookup panics on a name with at most two separators. -/
theorem PipyConf.getTrafficMatchPluginConfigs_error (p : PipyConf) (name : String)
    (h : (split '_' name.toList).length ≤ 3) :
    ∃ e, p.getTrafficMatchPluginConfigs name = .error e := by
  unfold PipyConf.getTrafficMatchPluginConfigs
  by_cases h1 : ((split '_' name.toList).map String.ofList).length ≤ 1
  · rw [if_pos h1]
    exact ⟨_, rfl⟩
  · have h3 : ((split '_' name.toList).map String.ofList).length ≤ 3 := by simpa using h
    rw [if_neg h1]
    simp only
    rw [if_pos h3]
    exact ⟨_, rfl⟩

end OsmEdge.Pipy
