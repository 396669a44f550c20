import OsmEdge.Pipy.Mesh

/-
  Traffic-match names read back (`pkg/service/types.go` against `trafficMatchToMeshSvc` and
  `getTrafficMatchPluginConfigs`, `pkg/sidecar/providers/pipy/repo`).

  A traffic match is named `prefix_namespace/name_port_protocol`. The free functions
  `IngressTrafficMatchName`, `AccessControlTrafficMatchName` and
  `ExportedServiceTrafficMatchName` take `(name, namespace)` and write the namespace first; the
  catalog calls them that way. The methods `IngressTrafficMatchName()` and
  `AccessControlTrafficMatchName()` pass `(ms.Namespace, ms.Name)`, so their names carry
  `name/namespace`. The plugin lookup maps the prefix to a mount point with a switch whose
  `ingress` and `acl` cases are empty; Go does not fall through, so only `exp` becomes
  `inbound`.

  Every encoder is first rewritten into the shared format `trafficMatchName`; the two decoders
  are then read on that format once.

  Proved:
  * `traffic_match_names_decode`: for every service with parts free of `_` and `/`, the names
    the catalog builds carry `namespace/name` in their second field and decode to the service;
    the two method forms carry `name/namespace` and decode to the service with namespace and
    name exchanged, so the CLI verifier's ingress name is the catalog's only for a service
    named after its namespace; and the plugins of an outbound, inbound, ingress, AccessControl
    and exported name are looked up under `outbound-p`, `inbound-p`, `ingress-p`, `acl-p` and
    `inbound-p`.
-/

namespace OsmEdge.Pipy

open OsmEdge.Trafficpolicy OsmEdge.Service GoText

/-- A part of a traffic-match name: not empty and without `_`. -/
def IsNamePart (s : String) : Prop := s ≠ "" ∧ '_' ∉ s.toList

instance (s : String) : Decidable (IsNamePart s) := inferInstanceAs (Decidable (_ ∧ _))

/-- A port's decimal text is a name part. -/
theorem isNamePart_port (port : UInt16) : IsNamePart (toString port) := by
  have htext : (toString port).toList = Nat.toDigits 10 port.toNat := by
    simp [toString, Nat.toList_repr]
  refine ⟨fun h => Nat.toDigits_ne_nil (htext.symm.trans (by rw [h]; rfl)), ?_⟩
  rw [htext]
  exact Nat.underscore_not_in_toDigits

/-! ## One name, split -/

/-- The format `%s_%s_%d_%s` every mesh traffic-match name is written in: a direction, a
    service, a port and a protocol. -/
def trafficMatchName (direct svc port protocol : String) : String :=
  direct ++ "_" ++ svc ++ "_" ++ port ++ "_" ++ protocol

section name

variable {direct svc port protocol : String}

theorem toList_trafficMatchName :
    (trafficMatchName direct svc port protocol).toList =
      direct.toList ++ '_' :: (svc.toList ++ '_' :: (port.toList ++ '_' :: protocol.toList)) := by
  simp [trafficMatchName]

/-- The four `_`-separated fields of a name. -/
theorem split_trafficMatchName (hdirect : '_' ∉ direct.toList) (hsvc : '_' ∉ svc.toList)
    (hport : '_' ∉ port.toList) (hprotocol : '_' ∉ protocol.toList) :
    (split '_' (trafficMatchName direct svc port protocol).toList).map String.ofList =
      [direct, svc, port, protocol] := by
  rw [toList_trafficMatchName]
  simp [split_append_cons, split_of_not_mem '_' _ hdirect, split_of_not_mem '_' _ hsvc,
    split_of_not_mem '_' _ hport, split_of_not_mem '_' _ hprotocol]

/-- With no empty part, the non-empty fields are the same four. -/
theorem fields_trafficMatchName (hdirect : IsNamePart direct) (hsvc : IsNamePart svc)
    (hport : IsNamePart port) (hprotocol : IsNamePart protocol) :
    fields '_' (trafficMatchName direct svc port protocol).toList =
      [direct.toList, svc.toList, port.toList, protocol.toList] := by
  rw [toList_trafficMatchName]
  simp [fields_append_cons, fields_of_not_mem '_' hdirect.2 (by simpa using hdirect.1),
    fields_of_not_mem '_' hsvc.2 (by simpa using hsvc.1),
    fields_of_not_mem '_' hport.2 (by simpa using hport.1),
    fields_of_not_mem '_' hprotocol.2 (by simpa using hprotocol.1)]

/-- `NamespacedNameFrom` reads `first/second` back. -/
theorem NamespacedNameFrom_slash {first second : String} (hfirst : '/' ∉ first.toList)
    (hsecond : '/' ∉ second.toList) :
    NamespacedNameFrom (first ++ "/" ++ second).toList = some (first, second) := by
  have h : (first ++ "/" ++ second).toList = first.toList ++ '/' :: second.toList := by simp
  simp [NamespacedNameFrom, h, split_append_cons, split_of_not_mem '/' _ hfirst,
    split_of_not_mem '/' _ hsecond]

/-- A traffic match whose name has `first/second` in its second field decodes to namespace
    `first` and name `second`, whatever its port and protocol. -/
theorem trafficMatchToMeshSvc_trafficMatchName {tm : TrafficMatch} {first second : String}
    (hname : tm.Name = trafficMatchName direct (first ++ "/" ++ second) port protocol)
    (hdirect : IsNamePart direct) (hfirst : '/' ∉ first.toList ∧ '_' ∉ first.toList)
    (hsecond : '/' ∉ second.toList ∧ '_' ∉ second.toList) (hport : IsNamePart port)
    (hprotocol : IsNamePart protocol) :
    (trafficMatchToMeshSvc tm).map (fun svc => (svc.Namespace, svc.Name)) = some (first, second) := by
  have hsvc : IsNamePart (first ++ "/" ++ second) := ⟨by simp, by simp [hfirst.2, hsecond.2]⟩
  simp only [trafficMatchToMeshSvc, hname, fields_trafficMatchName hdirect hsvc hport hprotocol,
    NamespacedNameFrom_slash hfirst.1 hsecond.1]
  rfl

end name

/-! ## Plugins by mount point -/

/-- The configurations of the plugins of a mesh service at a mount point, by plugin: what
    `getTrafficMatchPluginConfigs` collects once it has the two. -/
def pluginConfigsAt (p : PipyConf) (meshSvc mountPoint : String) : AList fun _ : String => String :=
  match p.pluginPolicies.lookup meshSvc with
  | none => ∅
  | some plugin2MountPoint2Config =>
    plugin2MountPoint2Config.entries.foldl (fun pluginConfigs e =>
      match e.2.lookup mountPoint with
      | some config => pluginConfigs.insert e.1 config
      | none => pluginConfigs) ∅

/-- A name of four fields is looked up for the service of its second field, at the mount point
    of its direction (`exp` read as `inbound`) and its protocol. -/
theorem getTrafficMatchPluginConfigs_trafficMatchName (p : PipyConf)
    {direct svc port protocol : String} (hdirect : '_' ∉ direct.toList) (hsvc : '_' ∉ svc.toList)
    (hport : '_' ∉ port.toList) (hprotocol : '_' ∉ protocol.toList) :
    p.getTrafficMatchPluginConfigs (trafficMatchName direct svc port protocol) =
      .ok (pluginConfigsAt p svc ((if direct = "exp" then "inbound" else direct) ++ "-" ++ protocol)) := by
  unfold PipyConf.getTrafficMatchPluginConfigs
  rw [split_trafficMatchName hdirect hsvc hport hprotocol]
  simp only [List.length_cons, List.length_nil, Nat.reduceAdd, Nat.reduceLeDiff, if_false,
    pluginConfigsAt]
  -- the switch reads the direction, the service and the protocol from the four fields
  have hseg0 : [direct, svc, port, protocol].getD 0 "" = direct := rfl
  have hseg1 : [direct, svc, port, protocol].getD 1 "" = svc := rfl
  have hseg3 : [direct, svc, port, protocol].getD 3 "" = protocol := rfl
  rw [hseg0, hseg1, hseg3]
  cases p.pluginPolicies.lookup svc <;> rfl

/-! ## The encoders -/

section encoders

variable (ms : MeshService) (name ns : String) (targetPort : UInt16) (protocol : String)

theorem OutboundTrafficMatchName_eq :
    ms.OutboundTrafficMatchName =
      trafficMatchName "outbound" (ms.Namespace ++ "/" ++ ms.Name) (toString ms.Port) ms.Protocol := by
  simp [MeshService.OutboundTrafficMatchName, trafficMatchName, String.append_assoc, toString]

theorem InboundTrafficMatchName_eq :
    ms.InboundTrafficMatchName =
      trafficMatchName "inbound" (ms.Namespace ++ "/" ++ ms.Name) (toString ms.TargetPort)
        ms.Protocol := by
  simp [MeshService.InboundTrafficMatchName, trafficMatchName, String.append_assoc, toString]

theorem IngressTrafficMatchName_eq :
    IngressTrafficMatchName name ns targetPort protocol =
      trafficMatchName "ingress" (ns ++ "/" ++ name) (toString targetPort) protocol := by
  simp [IngressTrafficMatchName, trafficMatchName, String.append_assoc]

theorem AccessControlTrafficMatchName_eq :
    AccessControlTrafficMatchName name ns targetPort protocol =
      trafficMatchName "acl" (ns ++ "/" ++ name) (toString targetPort) protocol := by
  simp [AccessControlTrafficMatchName, trafficMatchName, String.append_assoc]

theorem ExportedServiceTrafficMatchName_eq :
    ExportedServiceTrafficMatchName name ns targetPort protocol =
      trafficMatchName "exp" (ns ++ "/" ++ name) (toString targetPort) protocol := by
  simp [ExportedServiceTrafficMatchName, trafficMatchName, String.append_assoc]

/-- The traffic-match names of a service as the catalog builds them: the outbound and inbound
    methods, and the ingress, AccessControl and exported functions called with
    `(svc.Name, svc.Namespace)`. -/
def catalogTrafficMatchNames : List String :=
  [ms.OutboundTrafficMatchName, ms.InboundTrafficMatchName,
    IngressTrafficMatchName ms.Name ms.Namespace ms.TargetPort ms.Protocol,
    AccessControlTrafficMatchName ms.Name ms.Namespace ms.TargetPort ms.Protocol,
    ExportedServiceTrafficMatchName ms.Name ms.Namespace ms.TargetPort ms.Protocol]

/-- Every name the catalog builds is in the shared format, with `namespace/name` second and
    the direction of its encoder first. -/
theorem catalogTrafficMatchNames_eq :
    catalogTrafficMatchNames ms =
      [("outbound", ms.Port), ("inbound", ms.TargetPort), ("ingress", ms.TargetPort),
        ("acl", ms.TargetPort), ("exp", ms.TargetPort)].map fun (direct, port) =>
        trafficMatchName direct (ms.Namespace ++ "/" ++ ms.Name) (toString port) ms.Protocol := by
  simp only [catalogTrafficMatchNames, OutboundTrafficMatchName_eq, InboundTrafficMatchName_eq,
    IngressTrafficMatchName_eq, AccessControlTrafficMatchName_eq,
    ExportedServiceTrafficMatchName_eq, List.map_cons, List.map_nil]

end encoders

/-- The names of a service whose namespace and name hold neither `_` nor `/` are read back as
    follows. The five names the catalog builds decode to the service. The two methods write
    `name/namespace`, so their names decode to a service with namespace and name exchanged,
    and the CLI's `IngressTrafficMatchName()` meets the catalog's only when the two are equal.
    The plugin lookup uses the mount point of the name's own direction: `ingress` and `acl`
    keep theirs, and only `exp` is read as `inbound`. -/
theorem traffic_match_names_decode (p : PipyConf) (ms : MeshService)
    (hns : '/' ∉ ms.Namespace.toList ∧ '_' ∉ ms.Namespace.toList)
    (hname : '/' ∉ ms.Name.toList ∧ '_' ∉ ms.Name.toList) (hprotocol : IsNamePart ms.Protocol) :
    (∀ tm : TrafficMatch, tm.Name ∈ catalogTrafficMatchNames ms →
      (trafficMatchToMeshSvc tm).map (fun svc => (svc.Namespace, svc.Name)) =
        some (ms.Namespace, ms.Name)) ∧
    (∀ tm : TrafficMatch, tm.Name ∈ [ms.IngressTrafficMatchName, ms.AccessControlTrafficMatchName] →
      (trafficMatchToMeshSvc tm).map (fun svc => (svc.Namespace, svc.Name)) =
        some (ms.Name, ms.Namespace)) ∧
    (ms.IngressTrafficMatchName = IngressTrafficMatchName ms.Name ms.Namespace ms.TargetPort ms.Protocol ↔
      ms.Namespace = ms.Name) ∧
    (catalogTrafficMatchNames ms).map p.getTrafficMatchPluginConfigs =
      ["outbound", "inbound", "ingress", "acl", "inbound"].map fun direct =>
        .ok (pluginConfigsAt p (toString ms) (direct ++ "-" ++ ms.Protocol)) := by
  have hcatalog : ∀ tm : TrafficMatch, tm.Name ∈ catalogTrafficMatchNames ms →
      (trafficMatchToMeshSvc tm).map (fun svc => (svc.Namespace, svc.Name)) =
        some (ms.Namespace, ms.Name) := by
    intro tm htm
    rw [catalogTrafficMatchNames_eq, List.mem_map] at htm
    obtain ⟨⟨direct, port⟩, hmem, htm⟩ := htm
    have hdirect : IsNamePart direct := by
      simp only [List.mem_cons, Prod.mk.injEq, List.not_mem_nil, or_false] at hmem
      rcases hmem with ⟨rfl, -⟩ | ⟨rfl, -⟩ | ⟨rfl, -⟩ | ⟨rfl, -⟩ | ⟨rfl, -⟩ <;> decide
    exact trafficMatchToMeshSvc_trafficMatchName htm.symm hdirect hns hname (isNamePart_port port)
      hprotocol
  -- the methods pass `(ms.Namespace, ms.Name)` where the functions expect `(name, namespace)`
  have hmethods : ∀ tm : TrafficMatch,
      tm.Name ∈ [ms.IngressTrafficMatchName, ms.AccessControlTrafficMatchName] →
      (trafficMatchToMeshSvc tm).map (fun svc => (svc.Namespace, svc.Name)) =
        some (ms.Name, ms.Namespace) := by
    intro tm htm
    simp only [MeshService.IngressTrafficMatchName, MeshService.AccessControlTrafficMatchName,
      IngressTrafficMatchName_eq, AccessControlTrafficMatchName_eq, List.mem_pair] at htm
    rcases htm with h | h <;>
      exact trafficMatchToMeshSvc_trafficMatchName h (by decide) hname hns (isNamePart_port _)
        hprotocol
  refine ⟨hcatalog, hmethods, ⟨fun h => ?_, fun h => ?_⟩, ?_⟩
  · -- one name decodes both ways round
    let tm : TrafficMatch :=
      { Name := ms.IngressTrafficMatchName, DestinationPort := 0, DestinationProtocol := "" }
    have hswapped := hmethods tm (by simp [tm])
    have hstraight := hcatalog tm (by simp [tm, catalogTrafficMatchNames, h])
    rw [hswapped, Option.some.injEq, Prod.mk.injEq] at hstraight
    exact hstraight.2
  · rw [MeshService.IngressTrafficMatchName, h]
  · have hsvc : '_' ∉ (ms.Namespace ++ "/" ++ ms.Name).toList := by simp [hns.2, hname.2]
    simp only [catalogTrafficMatchNames_eq, List.map_cons, List.map_nil, List.cons.injEq,
      and_true]
    -- each direction is looked up at its own mount point, `exp` at `inbound`
    refine ⟨?_, ?_, ?_, ?_, ?_⟩ <;>
      exact getTrafficMatchPluginConfigs_trafficMatchName p (by decide) hsvc
        (isNamePart_port _).2 hprotocol.2

/-- `demo/bookstore` serving HTTP on 14001. -/
def bookstoreHTTP : MeshService :=
  { Namespace := "demo", Name := "bookstore", Port := 14001, TargetPort := 14001
    Protocol := "http" }

/-- One plugin, mounted on the inbound HTTP traffic of `demo/bookstore`. -/
def bookstorePlugins : PipyConf :=
  { Inbound := none, enablePermissiveTrafficPolicyMode := false
    pluginPolicies := (∅ : AList _).insert "demo/bookstore"
      ((∅ : AList _).insert "ratelimit" ((∅ : AList _).insert "inbound-http" "limit")) }

theorem traffic_match_names_decode_bookstore :
    (∀ tm : TrafficMatch, tm.Name ∈ catalogTrafficMatchNames bookstoreHTTP →
      (trafficMatchToMeshSvc tm).map (fun svc => (svc.Namespace, svc.Name)) =
        some ("demo", "bookstore")) ∧
    (∀ tm : TrafficMatch,
      tm.Name ∈ [bookstoreHTTP.IngressTrafficMatchName, bookstoreHTTP.AccessControlTrafficMatchName] →
      (trafficMatchToMeshSvc tm).map (fun svc => (svc.Namespace, svc.Name)) =
        some ("bookstore", "demo")) ∧
    (bookstoreHTTP.IngressTrafficMatchName = IngressTrafficMatchName "bookstore" "demo" 14001 "http" ↔
      "demo" = "bookstore") ∧
    (catalogTrafficMatchNames bookstoreHTTP).map bookstorePlugins.getTrafficMatchPluginConfigs =
      ["outbound", "inbound", "ingress", "acl", "inbound"].map fun direct =>
        .ok (pluginConfigsAt bookstorePlugins (toString bookstoreHTTP) (direct ++ "-" ++ "http")) :=
  traffic_match_names_decode bookstorePlugins bookstoreHTTP (by decide) (by decide) (by decide)

example : (pluginConfigsAt bookstorePlugins "demo/bookstore" "ingress-http").entries = [] ∧
    (pluginConfigsAt bookstorePlugins "demo/bookstore" "inbound-http").entries.length = 1 := by
  decide

end OsmEdge.Pipy
