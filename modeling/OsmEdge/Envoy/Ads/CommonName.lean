import OsmEdge.Identity
import OsmEdge.Lib.Uuid

/-
  Certificate common names of the ADS server (`pkg/sidecar/providers/envoy/ads/stream.go`).

  The xDS certificate of a proxy is issued for `<proxy-UUID>.<kind>.<name>.<namespace>` and a
  trust domain (`NewCertCNPrefix` in `pkg/sidecar/adapter.go`). When the proxy connects,
  `getCertificateCommonNameMeta` cuts the name at its first four dots (`SplitN` with the
  limit 5) and reads back the kind, the UUID and the identity: it does so for every kind,
  name and namespace that are non-empty and hold no dot, and every trust domain
  (`getCertificateCommonNameMeta_NewCertCNPrefix`). The identity it returns is always a
  name and a namespace without dots.

  `isCNforProxy` matches a workload certificate `<name>.<namespace>.<trust-domain>` against
  a proxy's identity by the first two dot-separated fields of each. On an identity of two
  such fields, as every proxy registered from a certificate has, that is equality
  (`isCNforProxy_of_getCertificateCommonNameMeta`); an identity with more fields matches
  through its first two only. An identity without a dot makes Go's
  `ToK8sServiceAccount` index past its one field and panic.

  `Proxy.Identity` is not a field of the proxy record of `OsmEdge.Envoy`, so `isCNforProxy`
  takes the identity itself.

  The UUIDs are those of `github.com/google/uuid`, a package outside the repository: its
  `UUID.String` and `Parse` are the arguments `uuidString` and `uuidParse`, and the round trip
  rests on the two facts of them that the package documents, that `Parse` reads back what
  `String` writes and that `String` writes hex digits and dashes, so no dot. `Uuid.Parse` and
  `Uuid.UUID.String` are one implementation with both.
-/

namespace OsmEdge.Models

/-- `models.ProxyKind`: a Go `string` type. -/
abbrev ProxyKind := String

/-- `KindSidecar`. -/
def KindSidecar : ProxyKind := "sidecar"

end OsmEdge.Models

namespace OsmEdge.Sidecar

open OsmEdge.Identity OsmEdge.Models

/-- `NewCertCNPrefix`: `<ProxyUUID>.<kind>.<identity>`, the UUID written by `uuidString`. -/
def NewCertCNPrefix {UUID : Type} (uuidString : UUID → String) (proxyUUID : UUID)
    (kind : ProxyKind) (si : ServiceIdentity) : String :=
  uuidString proxyUUID ++ "." ++ kind ++ "." ++ si

end OsmEdge.Sidecar

namespace OsmEdge.Ads

open OsmEdge.Identity OsmEdge.Models OsmEdge.Sidecar GoText

/-- `errInvalidCertificateCN`. -/
def errInvalidCertificateCN : String := "invalid cn"

section uuid

variable {UUID : Type} (uuidParse : String → Except String UUID) (uuidString : UUID → String)

/-- `getCertificateCommonNameMeta`: the kind, the UUID and the identity of an xDS certificate
    name `<proxy-UUID>.<kind>.<name>.<namespace>.<trust-domain>`. The error of `uuid.Parse` is
    returned as it is. -/
def getCertificateCommonNameMeta (cn : String) :
    Except String (ProxyKind × UUID × ServiceIdentity) :=
  match splitN '.' 5 cn.toList with
  | c0 :: c1 :: c2 :: c3 :: _ =>
    match uuidParse (String.ofList c0) with
    | .error err => .error err
    | .ok proxyUUID =>
      if c1 = [] ∨ c2 = [] ∨ c3 = [] then .error errInvalidCertificateCN
      else .ok (String.ofList c1, proxyUUID, New (String.ofList c2) (String.ofList c3))
  | _ => .error errInvalidCertificateCN

/-- `isCNforProxy`: whether the first two fields of a workload certificate name are the
    service account of the proxy's identity. A name of fewer than three fields matches no
    proxy; the identity is read only past that test, so only then can it panic. -/
def isCNforProxy (proxyIdentity : ServiceIdentity) (cn : String) : Except String Bool :=
  match split '.' cn.toList with
  | c0 :: c1 :: _ :: _ =>
    proxyIdentity.ToK8sServiceAccount.map fun sa =>
      decide ({ Namespace := String.ofList c1, Name := String.ofList c0 } = sa)
  | _ => .ok false

/-- A field of a certificate name that reads back: non-empty and without a dot. -/
def cnChunk (s : String) : Prop := s ≠ "" ∧ '.' ∉ s.toList

instance (s : String) : Decidable (cnChunk s) := inferInstanceAs (Decidable (_ ∧ _))

/-! ## The xDS certificate name -/

/-- The four fields `getCertificateCommonNameMeta` reads, and the trust domain as the rest. -/
theorem splitN_NewCertCNPrefix {u : UUID} (hdot : '.' ∉ (uuidString u).toList)
    {kind name ns : String} (hkind : '.' ∉ kind.toList) (hname : '.' ∉ name.toList)
    (hns : '.' ∉ ns.toList) (td : String) :
    splitN '.' 5 (NewCertCNPrefix uuidString u kind (New name ns) ++ "." ++ td).toList =
      [(uuidString u).toList, kind.toList, name.toList, ns.toList, td.toList] := by
  have hcn : (NewCertCNPrefix uuidString u kind (New name ns) ++ "." ++ td).toList =
      (uuidString u).toList ++ '.' :: (kind.toList ++ '.' ::
        (name.toList ++ '.' :: (ns.toList ++ '.' :: td.toList))) := by
    simp [NewCertCNPrefix, New_toList, String.toList_append]
  rw [hcn, splitN_append_cons '.' 3 hdot, splitN_append_cons '.' 2 hkind,
    splitN_append_cons '.' 1 hname, splitN_append_cons '.' 0 hns, splitN_one]

/-- The name of an xDS certificate reads back as the kind, the UUID and the identity it was
    issued for, whatever the trust domain, when the UUID's text reads back and holds no dot. -/
theorem getCertificateCommonNameMeta_NewCertCNPrefix {u : UUID}
    (hparse : uuidParse (uuidString u) = .ok u) (hdot : '.' ∉ (uuidString u).toList)
    {kind name ns : String} (hkind : cnChunk kind) (hname : cnChunk name) (hns : cnChunk ns)
    (td : String) :
    getCertificateCommonNameMeta uuidParse (NewCertCNPrefix uuidString u kind (New name ns) ++
      "." ++ td) = .ok (kind, u, New name ns) := by
  have hne : ¬(kind.toList = [] ∨ name.toList = [] ∨ ns.toList = []) := by
    simp only [String.toList_eq_nil_iff]
    exact fun h => h.elim hkind.1 (fun h => h.elim hname.1 hns.1)
  rw [getCertificateCommonNameMeta, splitN_NewCertCNPrefix uuidString hdot hkind.2 hname.2 hns.2]
  dsimp only
  rw [String.ofList_toList, hparse]
  dsimp only
  rw [if_neg hne, String.ofList_toList, String.ofList_toList, String.ofList_toList]

/-- What `getCertificateCommonNameMeta` accepts names an identity of two fields that are
    non-empty and hold no dot. -/
theorem getCertificateCommonNameMeta_eq_ok {cn : String} {kind : ProxyKind} {u : UUID}
    {si : ServiceIdentity} (h : getCertificateCommonNameMeta uuidParse cn = .ok (kind, u, si)) :
    ∃ name ns, cnChunk name ∧ cnChunk ns ∧ si = New name ns := by
  unfold getCertificateCommonNameMeta at h
  split at h
  · rename_i c0 c1 c2 c3 rest hsplit
    -- the first four pieces of `SplitN` with the limit 5 hold no dot
    have hdot : ∀ w ∈ [c0, c1, c2, c3], '.' ∉ w := by
      intro w hw
      apply not_mem_of_mem_take_splitN '.' 4 cn.toList w
      rw [hsplit]
      simpa using hw
    cases hparse : uuidParse (String.ofList c0) with
    | error err => rw [hparse] at h; cases h
    | ok proxyUUID =>
      rw [hparse] at h
      dsimp only at h
      split at h
      · cases h
      · rename_i hne
        cases h
        refine ⟨String.ofList c2, String.ofList c3, ⟨?_, ?_⟩, ⟨?_, ?_⟩, rfl⟩
        · simpa using fun e => hne (.inr (.inl e))
        · simpa using hdot c2 (by simp)
        · simpa using fun e => hne (.inr (.inr e))
        · simpa using hdot c3 (by simp)
  · cases h

/-! ## Workload certificate names -/

/-- On a name `<name>.<namespace>.<trust-domain>`, `isCNforProxy` is the test of the proxy's
    service account against the name and the namespace. -/
theorem isCNforProxy_eq (pid : ServiceIdentity) {name ns : String} (hname : '.' ∉ name.toList)
    (hns : '.' ∉ ns.toList) (td : String) :
    isCNforProxy pid (New name ns ++ "." ++ td) =
      pid.ToK8sServiceAccount.map fun sa => decide ({ Namespace := ns, Name := name } = sa) := by
  have hlist : (New name ns ++ "." ++ td).toList =
      name.toList ++ '.' :: (ns.toList ++ '.' :: td.toList) := by
    simp [New_toList, String.toList_append]
  obtain ⟨w, ws, hw⟩ := List.exists_cons_of_ne_nil (split_ne_nil '.' td.toList)
  rw [isCNforProxy, hlist, split_append_cons_of_not_mem '.' hname,
    split_append_cons_of_not_mem '.' hns, hw]
  dsimp only
  rw [String.ofList_toList, String.ofList_toList]

/-- `isCNforProxy` gives `true` for the identity of the name and the namespace and for every
    identity that goes on after a further dot, and fails exactly on an identity without a
    dot. -/
theorem isCNforProxy_iff (pid : ServiceIdentity) {name ns : String} (hname : '.' ∉ name.toList)
    (hns : '.' ∉ ns.toList) (td : String) :
    (isCNforProxy pid (New name ns ++ "." ++ td) = .ok true ↔
        pid = New name ns ∨ ∃ rest, pid = New name ns ++ "." ++ rest) ∧
      ((∃ e, isCNforProxy pid (New name ns ++ "." ++ td) = .error e) ↔ '.' ∉ pid.toList) := by
  rw [isCNforProxy_eq pid hname hns td, ← ToK8sServiceAccount_eq_ok_iff hname hns,
    ← ToK8sServiceAccount_eq_error_iff]
  cases pid.ToK8sServiceAccount with
  | error e => simp [Except.map]
  | ok sa => simp [Except.map, eq_comm]

/-- For the identity of a proxy registered from its xDS certificate, `isCNforProxy` on a
    workload certificate name is exactly the test that the identity is the name's. -/
theorem isCNforProxy_of_getCertificateCommonNameMeta {cn : String} {kind : ProxyKind}
    {u : UUID} {si : ServiceIdentity}
    (h : getCertificateCommonNameMeta uuidParse cn = .ok (kind, u, si))
    {name ns : String} (hname : '.' ∉ name.toList) (hns : '.' ∉ ns.toList) (td : String) :
    isCNforProxy si (New name ns ++ "." ++ td) = .ok (decide (si = New name ns)) := by
  obtain ⟨a, b, ha, hb, rfl⟩ := getCertificateCommonNameMeta_eq_ok uuidParse h
  rw [isCNforProxy_eq _ hname hns td, ToK8sServiceAccount_New ha.2 hb.2]
  simp only [Except.map, Except.ok.injEq, decide_eq_decide, K8sServiceAccount.mk.injEq,
    New_inj ha.2 hname]
  constructor <;> (rintro ⟨rfl, rfl⟩; exact ⟨rfl, rfl⟩)

/-- The name of an xDS certificate reads back as the kind, the UUID and the identity it was
    issued for, for every kind, name and namespace that are non-empty and hold no dot and
    every trust domain, whenever `uuid.Parse` reads back what `UUID.String` writes and that
    text holds no dot. A workload certificate name `<name>.<namespace>.<trust-domain>`
    matches the identity `New name namespace` and every identity that goes on after a
    further dot, and the code panics on an identity without a dot; on the identity of a
    proxy registered from its xDS certificate the match is exactly equality. -/
theorem cert_common_name_round_trip (hParse : ∀ u, uuidParse (uuidString u) = .ok u)
    (hdot : ∀ u, '.' ∉ (uuidString u).toList) (u : UUID) (kind name ns td : String)
    (hkind : cnChunk kind) (hname : cnChunk name) (hns : cnChunk ns) :
    getCertificateCommonNameMeta uuidParse
        (NewCertCNPrefix uuidString u kind (New name ns) ++ "." ++ td) =
        .ok (kind, u, New name ns) ∧
      (∀ pid : ServiceIdentity,
        (isCNforProxy pid (New name ns ++ "." ++ td) = .ok true ↔
            pid = New name ns ∨ ∃ rest, pid = New name ns ++ "." ++ rest) ∧
          ((∃ e, isCNforProxy pid (New name ns ++ "." ++ td) = .error e) ↔ '.' ∉ pid.toList)) ∧
      ∀ (cn : String) (kind' : ProxyKind) (u' : UUID) (si : ServiceIdentity),
        getCertificateCommonNameMeta uuidParse cn = .ok (kind', u', si) →
          isCNforProxy si (New name ns ++ "." ++ td) = .ok (decide (si = New name ns)) := by
  refine ⟨getCertificateCommonNameMeta_NewCertCNPrefix uuidParse uuidString (hParse u) (hdot u)
    hkind hname hns td, fun pid => ?_, fun cn kind' u' si h => ?_⟩
  · exact isCNforProxy_iff pid hname.2 hns.2 td
  · exact isCNforProxy_of_getCertificateCommonNameMeta uuidParse h hname.2 hns.2 td

end uuid

/-- `uuid.Parse` with its error as the text `err.Error()` gives. -/
def uuidParse (s : String) : Except String Uuid.UUID := (Uuid.Parse s).mapError Uuid.ParseError.Error

theorem cert_common_name_round_trip_bookbuyer :
    (∀ u, uuidParse u.String = .ok u) ∧ (∀ u : Uuid.UUID, '.' ∉ u.String.toList) ∧
      cnChunk KindSidecar ∧ cnChunk "bookbuyer" ∧ cnChunk "bookstore" ∧
      getCertificateCommonNameMeta uuidParse (NewCertCNPrefix Uuid.UUID.String Uuid.Nil
          KindSidecar (New "bookbuyer" "bookstore") ++ "." ++ "cluster.local") =
        .ok (KindSidecar, Uuid.Nil, New "bookbuyer" "bookstore") := by
  have hParse : ∀ u, uuidParse u.String = .ok u := by
    intro u
    rw [uuidParse, Uuid.Parse_String]
    rfl
  have hkind : cnChunk KindSidecar := by decide
  have hname : cnChunk "bookbuyer" := by decide
  have hns : cnChunk "bookstore" := by decide
  exact ⟨hParse, Uuid.dot_not_mem_String, hkind, hname, hns,
    (cert_common_name_round_trip uuidParse Uuid.UUID.String hParse Uuid.dot_not_mem_String
      Uuid.Nil KindSidecar "bookbuyer" "bookstore" "cluster.local" hkind hname hns).1⟩

/-- An identity in the `<ServiceAccount>.<Namespace>.cluster.local` form matches the
    workload certificate of its first two fields, though it is not their identity. -/
theorem isCNforProxy_cluster_local_identity :
    isCNforProxy "bookbuyer.bookstore.cluster.local"
        (New "bookbuyer" "bookstore" ++ "." ++ "cluster.local") = .ok true ∧
      ("bookbuyer.bookstore.cluster.local" : ServiceIdentity) ≠ New "bookbuyer" "bookstore" := by
  decide

end OsmEdge.Ads
