import OsmEdge.Service
import OsmEdge.Lib.GoStrconv

/-
  Cluster names: the name `SidecarClusterName` writes for a mesh service,
  `namespace/name|port`, and the decoder `clusterToMeshSvc`, of which the EDS response
  builder (`eds/response.go`) and the Pipy repo (`pipy/repo/util.go`) each keep a copy. The
  copies differ only in how they wrap the `strconv` error (`%w` with `fmt.Errorf`, `%s` with
  `errors.Errorf`), which prints the same text.

  The decoder splits at every `/` and `|` alike and drops the empty pieces
  (`strings.FieldsFunc`). It reads back what the encoder writes for a namespace and a name
  that are non-empty and hold neither separator (`clusterToMeshSvc_SidecarClusterName`). A
  text it accepts may have the separators elsewhere, several in a row, or a port with
  leading zeros; the encoder then writes the canonical text of what was read, with the same
  fields but the port in decimal, and the decoder reads that to the same service
  (`SidecarClusterName_of_clusterToMeshSvc`).
-/

namespace OsmEdge.Service

open GoText GoStrconv

/-- The separators of `clusterToMeshSvc`'s `splitFunc`. -/
def splitFunc (r : Char) : Bool := r == '/' || r == '|'

/-- `clusterToMeshSvc`: the three fields of the cluster name as the namespace, the name and
    the target port of a service whose other fields are zero. -/
def clusterToMeshSvc (cluster : String) : Except String MeshService :=
  match fieldsFunc splitFunc cluster.toList with
  | [c0, c1, c2] =>
    match ParseUint (String.ofList c2) 16 with
    | .error err =>
      .error ("Invalid cluster port " ++ String.ofList c2 ++ ", expected int value: " ++
        err.Error)
    | .ok port =>
      .ok { Namespace := String.ofList c0, Name := String.ofList c1, Port := 0
            TargetPort := UInt16.ofNat port, Protocol := "" }
  | _ => .error ("Invalid cluster name. Expected: <namespace>/<name>|<port>, got: " ++ cluster)

end OsmEdge.Service

/-- The EDS copy of `clusterToMeshSvc` (`eds/response.go`). -/
def OsmEdge.Eds.clusterToMeshSvc (cluster : String) : Except String OsmEdge.Service.MeshService :=
  OsmEdge.Service.clusterToMeshSvc cluster

/-- The Pipy copy of `clusterToMeshSvc` (`pipy/repo/util.go`). -/
def OsmEdge.Pipy.clusterToMeshSvc (cluster : String) : Except String OsmEdge.Service.MeshService :=
  OsmEdge.Service.clusterToMeshSvc cluster

namespace OsmEdge.Service

open GoText GoStrconv

/-- A namespace or a name the decoder reads back: non-empty, without `/` or `|`. -/
def clusterField (s : String) : Prop := s ≠ "" ∧ ∀ c ∈ s.toList, c ≠ '/' ∧ c ≠ '|'

theorem clusterField_iff (s : String) :
    clusterField s ↔ s ≠ "" ∧ s.toList.all (fun c => c != '/' && c != '|') = true := by
  simp [clusterField]

instance (s : String) : Decidable (clusterField s) :=
  decidable_of_iff _ (clusterField_iff s).symm

theorem splitFunc_slash : splitFunc '/' = true := rfl

theorem splitFunc_bar : splitFunc '|' = true := rfl

theorem splitFunc_eq_false {c : Char} : splitFunc c = false ↔ c ≠ '/' ∧ c ≠ '|' := by
  simp [splitFunc]

theorem fieldsFunc_clusterField {s : String} (hs : clusterField s) :
    fieldsFunc splitFunc s.toList = [s.toList] :=
  fieldsFunc_of_forall splitFunc (fun c hc => splitFunc_eq_false.mpr (hs.2 c hc))
    (by simpa using hs.1)

/-- A field of a cluster name is a field the decoder reads back. -/
theorem clusterField_of_mem_fieldsFunc {s w : List Char} (hw : w ∈ fieldsFunc splitFunc s) :
    clusterField (String.ofList w) := by
  obtain ⟨hne, hsep⟩ := mem_fieldsFunc splitFunc hw
  refine ⟨fun h => hne ?_, fun c hc => splitFunc_eq_false.mp (hsep c ?_)⟩
  · simpa using congrArg String.toList h
  · simpa using hc

/-- The fields of a name `SidecarClusterName` writes. -/
theorem fieldsFunc_SidecarClusterName {ms : MeshService} (hns : clusterField ms.Namespace)
    (hname : clusterField ms.Name) :
    fieldsFunc splitFunc ms.SidecarClusterName.toList =
      [ms.Namespace.toList, ms.Name.toList, (toString ms.TargetPort).toList] := by
  have hport : fieldsFunc splitFunc (toString ms.TargetPort).toList =
      [(toString ms.TargetPort).toList] := by
    refine fieldsFunc_of_forall splitFunc (fun c hc => ?_) ?_
    · -- the digits of the port are no separators
      have hdigit : c.isDigit = true := isDigit_of_mem_repr hc
      rw [splitFunc_eq_false]
      constructor <;> (rintro rfl; revert hdigit; decide)
    · exact (Nat.toList_repr ▸ Nat.toDigits_ne_nil)
  have hlist : ms.SidecarClusterName.toList =
      ms.Namespace.toList ++ '/' :: (ms.Name.toList ++ '|' :: (toString ms.TargetPort).toList) := by
    simp [MeshService.SidecarClusterName, String.toList_append]
  rw [hlist, fieldsFunc_append_cons splitFunc splitFunc_slash,
    fieldsFunc_append_cons splitFunc splitFunc_bar, fieldsFunc_clusterField hns,
    fieldsFunc_clusterField hname, hport]
  rfl

/-- What the decoder returns on three fields whose last reads as a port. -/
theorem clusterToMeshSvc_of_fieldsFunc {cluster : String} {c0 c1 c2 : List Char} {port : Nat}
    (hfields : fieldsFunc splitFunc cluster.toList = [c0, c1, c2])
    (hport : parseUintErr c2 16 = .ok port) :
    clusterToMeshSvc cluster =
      .ok { Namespace := String.ofList c0, Name := String.ofList c1, Port := 0
            TargetPort := UInt16.ofNat port, Protocol := "" } := by
  rw [clusterToMeshSvc, hfields]
  dsimp only
  rw [ParseUint, String.toList_ofList, hport]
  rfl

/-- What the decoder succeeds on: three fields, the last a port. -/
theorem clusterToMeshSvc_eq_ok {cluster : String} {ms : MeshService}
    (h : clusterToMeshSvc cluster = .ok ms) :
    ∃ c0 c1 c2 port, fieldsFunc splitFunc cluster.toList = [c0, c1, c2] ∧
      parseUintErr c2 16 = .ok port ∧
      ms = { Namespace := String.ofList c0, Name := String.ofList c1, Port := 0
             TargetPort := UInt16.ofNat port, Protocol := "" } := by
  unfold clusterToMeshSvc at h
  split at h
  · rename_i c0 c1 c2 hfields
    rw [ParseUint, String.toList_ofList] at h
    cases hport : parseUintErr c2 16 with
    | error err => rw [hport] at h; cases h
    | ok port =>
      rw [hport] at h
      cases h
      exact ⟨c0, c1, c2, port, hfields, hport, rfl⟩
  · cases h

/-- A service with a namespace and a name the decoder reads back is decoded from its
    cluster name, with its target port. -/
theorem clusterToMeshSvc_SidecarClusterName {ms : MeshService} (hns : clusterField ms.Namespace)
    (hname : clusterField ms.Name) :
    clusterToMeshSvc ms.SidecarClusterName =
      .ok { Namespace := ms.Namespace, Name := ms.Name, Port := 0
            TargetPort := ms.TargetPort, Protocol := "" } := by
  have hport : parseUintErr (toString ms.TargetPort).toList 16 = .ok ms.TargetPort.toNat :=
    parseUintErr_repr (UInt16.toNat_lt ms.TargetPort)
  rw [clusterToMeshSvc_of_fieldsFunc (fieldsFunc_SidecarClusterName hns hname) hport,
    String.ofList_toList, String.ofList_toList, UInt16.ofNat_toNat]

/-- On a text the decoder accepts, its fields are the namespace, the name and a text that
    reads as the target port; the cluster name of the result has the same fields with the
    port in decimal, and decodes to the same service. -/
theorem SidecarClusterName_of_clusterToMeshSvc {cluster : String} {ms : MeshService}
    (h : clusterToMeshSvc cluster = .ok ms) :
    (∃ c2, fieldsFunc splitFunc cluster.toList = [ms.Namespace.toList, ms.Name.toList, c2] ∧
        parseUintErr c2 16 = .ok ms.TargetPort.toNat) ∧
      fieldsFunc splitFunc ms.SidecarClusterName.toList =
        [ms.Namespace.toList, ms.Name.toList, (toString ms.TargetPort).toList] ∧
      clusterToMeshSvc ms.SidecarClusterName = .ok ms := by
  obtain ⟨c0, c1, c2, port, hfields, hport, rfl⟩ := clusterToMeshSvc_eq_ok h
  have hlt : port < 2 ^ 16 := by
    have := parseUintLoop_le (Nat.zero_le _) (by
      rw [parseUintErr] at hport
      split at hport
      · cases hport
      · exact hport)
    omega
  have hns := clusterField_of_mem_fieldsFunc (hfields ▸ List.mem_cons_self : c0 ∈ _)
  have hname := clusterField_of_mem_fieldsFunc
    (hfields ▸ List.mem_cons_of_mem _ List.mem_cons_self : c1 ∈ _)
  refine ⟨⟨c2, ?_, ?_⟩, fieldsFunc_SidecarClusterName hns hname,
    clusterToMeshSvc_SidecarClusterName hns hname⟩
  · simpa using hfields
  · rw [UInt16.toNat_ofNat', Nat.mod_eq_of_lt hlt]
    exact hport

/-- Both copies of the decoder read back the cluster name of a service whose namespace and
    name are non-empty and hold neither separator. On every text either copy accepts, the
    fields are the result's namespace and name and a text that reads as its target port;
    the result's cluster name has the same fields with the port in decimal, and both copies
    decode it to the same service. -/
theorem cluster_name_round_trip :
    (∀ ms : MeshService, clusterField ms.Namespace → clusterField ms.Name →
      Eds.clusterToMeshSvc ms.SidecarClusterName =
          .ok { Namespace := ms.Namespace, Name := ms.Name, Port := 0
                TargetPort := ms.TargetPort, Protocol := "" } ∧
        Pipy.clusterToMeshSvc ms.SidecarClusterName =
          .ok { Namespace := ms.Namespace, Name := ms.Name, Port := 0
                TargetPort := ms.TargetPort, Protocol := "" }) ∧
    ∀ (cluster : String) (ms : MeshService),
      Eds.clusterToMeshSvc cluster = .ok ms ∨ Pipy.clusterToMeshSvc cluster = .ok ms →
      (∃ c2, fieldsFunc splitFunc cluster.toList = [ms.Namespace.toList, ms.Name.toList, c2] ∧
          parseUintErr c2 16 = .ok ms.TargetPort.toNat) ∧
        fieldsFunc splitFunc ms.SidecarClusterName.toList =
          [ms.Namespace.toList, ms.Name.toList, (toString ms.TargetPort).toList] ∧
        Eds.clusterToMeshSvc ms.SidecarClusterName = .ok ms ∧
        Pipy.clusterToMeshSvc ms.SidecarClusterName = .ok ms := by
  refine ⟨fun ms hns hname => ?_, fun cluster ms hok => ?_⟩
  · have h := clusterToMeshSvc_SidecarClusterName hns hname
    exact ⟨h, h⟩
  · -- the two copies are one function
    have h : clusterToMeshSvc cluster = .ok ms := hok.elim id id
    obtain ⟨hfields, hname, hback⟩ := SidecarClusterName_of_clusterToMeshSvc h
    exact ⟨hfields, hname, hback, hback⟩

/-- A service of the bookstore demo. -/
def bookstoreV1 : MeshService :=
  { Namespace := "bookstore", Name := "bookstore-v1", Port := 14001, TargetPort := 14001
    Protocol := "http" }

theorem cluster_name_round_trip_bookstoreV1 :
    clusterField bookstoreV1.Namespace ∧ clusterField bookstoreV1.Name ∧
      Eds.clusterToMeshSvc bookstoreV1.SidecarClusterName =
        .ok { Namespace := "bookstore", Name := "bookstore-v1", Port := 0, TargetPort := 14001
              Protocol := "" } ∧
      Pipy.clusterToMeshSvc bookstoreV1.SidecarClusterName =
        .ok { Namespace := "bookstore", Name := "bookstore-v1", Port := 0, TargetPort := 14001
              Protocol := "" } := by
  have hns : clusterField bookstoreV1.Namespace := by decide
  have hname : clusterField bookstoreV1.Name := by decide
  exact ⟨hns, hname, cluster_name_round_trip.1 bookstoreV1 hns hname⟩

/-- The decoder accepts the separators the other way round, and the encoder does not give
    the text back. -/
theorem clusterToMeshSvc_swapped_separators :
    Eds.clusterToMeshSvc "ns|name/80" =
        .ok { Namespace := "ns", Name := "name", Port := 0, TargetPort := 80, Protocol := "" } ∧
      MeshService.SidecarClusterName
        { Namespace := "ns", Name := "name", Port := 0, TargetPort := 80, Protocol := "" } =
        "ns/name|80" := by
  decide

end OsmEdge.Service
