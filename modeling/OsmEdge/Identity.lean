import Mathlib.Data.String.Basic
import OsmEdge.Lib.GoText
import OsmEdge.Lib.ExceptLoop

/-
  Service identities and principals (`pkg/identity/types.go`).

  A `ServiceIdentity` is the Go string type `<ServiceAccount>.<Namespace>`; a principal is
  an identity followed by `.<trust domain>`, or the wildcard `*`. A principal built from a
  service account always contains a dot, so it is never the wildcard
  (`K8sServiceAccount.AsPrincipal_ne_wildcard`): the wildcard reaches an RBAC policy only
  where the code puts it there itself.
-/

namespace OsmEdge.Identity

/-- `ServiceIdentity`: a Go `string` type. -/
abbrev ServiceIdentity := String

/-- `K8sServiceAccount`. -/
structure K8sServiceAccount where
  Namespace : String
  Name : String
  deriving DecidableEq, Repr

/-- `New`: the identity `name.namespace`. -/
def New (name ns : String) : ServiceIdentity := name ++ "." ++ ns

/-- `WildcardServiceIdentity`. -/
def WildcardServiceIdentity : ServiceIdentity := "*"

/-- `WildcardPrincipal`. -/
def WildcardPrincipal : String := "*"

/-- `ServiceIdentity.IsWildcard`. -/
def ServiceIdentity.IsWildcard (si : ServiceIdentity) : Bool := si == WildcardServiceIdentity

/-- `FromPrincipal`: the principal without its `.<trust domain>` suffix. -/
def FromPrincipal (servicePrincipal trustDomain : String) : ServiceIdentity :=
  String.ofList (GoText.trimSuffix servicePrincipal.toList ("." ++ trustDomain).toList)

/-- `ServiceIdentity.AsPrincipal`: the wildcard stays the wildcard, anything else gets the
    trust domain appended. -/
def ServiceIdentity.AsPrincipal (si : ServiceIdentity) (trustDomain : String) : String :=
  if ServiceIdentity.IsWildcard si then si else si ++ "." ++ trustDomain

/-- `K8sServiceAccount.ToServiceIdentity`. -/
def K8sServiceAccount.ToServiceIdentity (sa : K8sServiceAccount) : ServiceIdentity :=
  New sa.Name sa.Namespace

/-- `ServiceIdentity.ToK8sServiceAccount`: the first two dot-separated fields, the service
    account and the namespace. Go reads `chunks[1]`, and panics when there is no dot. -/
def ServiceIdentity.ToK8sServiceAccount (si : ServiceIdentity) : Except String K8sServiceAccount :=
  match GoText.split '.' si.toList with
  | name :: ns :: _ => .ok { Namespace := String.ofList ns, Name := String.ofList name }
  | chunks => .error (ExceptLoop.indexOutOfRange 1 chunks.length)

/-- `K8sServiceAccount.AsPrincipal`. -/
def K8sServiceAccount.AsPrincipal (sa : K8sServiceAccount) (trustDomain : String) : String :=
  ServiceIdentity.AsPrincipal sa.ToServiceIdentity trustDomain

/-- An identity holds a dot, the wildcard does not. -/
theorem New_ne_wildcard (name ns : String) : New name ns ≠ WildcardServiceIdentity := by
  intro h
  have hdot : '.' ∈ (New name ns).toList := by simp [New]
  rw [h] at hdot
  simp [WildcardServiceIdentity] at hdot

/-- The principal of a service account is its identity with the trust domain appended. -/
theorem K8sServiceAccount.AsPrincipal_eq (sa : K8sServiceAccount) (trustDomain : String) :
    sa.AsPrincipal trustDomain = sa.Name ++ "." ++ sa.Namespace ++ "." ++ trustDomain := by
  have hw : ServiceIdentity.IsWildcard sa.ToServiceIdentity = false := by
    simpa [ServiceIdentity.IsWildcard, K8sServiceAccount.ToServiceIdentity] using
      New_ne_wildcard sa.Name sa.Namespace
  simp only [K8sServiceAccount.AsPrincipal, ServiceIdentity.AsPrincipal, hw, Bool.false_eq_true,
    if_false]
  rfl

theorem K8sServiceAccount.AsPrincipal_ne_wildcard (sa : K8sServiceAccount) (trustDomain : String) :
    sa.AsPrincipal trustDomain ≠ WildcardPrincipal := by
  intro h
  have hlen := congrArg String.length h
  rw [K8sServiceAccount.AsPrincipal_eq] at hlen
  simp only [WildcardPrincipal, String.length_append] at hlen
  have hdot : ".".length = 1 := rfl
  have hstar : "*".length = 1 := rfl
  omega

/-! ## Reading the service account back -/

theorem New_toList (name ns : String) : (New name ns).toList = name.toList ++ '.' :: ns.toList := by
  simp [New, String.toList_append]

/-- An identity whose name holds no dot determines its name and namespace. -/
theorem New_inj {a b c d : String} (ha : '.' ∉ a.toList) (hc : '.' ∉ c.toList) :
    New a b = New c d ↔ a = c ∧ b = d := by
  constructor
  · intro h
    -- both cut at their first dot, which ends the name
    have hcut := congrArg (fun s : String => GoText.cut '.' s.toList) h
    simp only [New_toList, GoText.cut_append_cons '.' ha, GoText.cut_append_cons '.' hc,
      Option.some.injEq, Prod.mk.injEq] at hcut
    exact ⟨String.toList_injective hcut.1, String.toList_injective hcut.2⟩
  · rintro ⟨rfl, rfl⟩
    rfl

theorem ToK8sServiceAccount_of_split {si : ServiceIdentity} {name ns : List Char}
    {rest : List (List Char)} (h : GoText.split '.' si.toList = name :: ns :: rest) :
    si.ToK8sServiceAccount = .ok { Namespace := String.ofList ns, Name := String.ofList name } := by
  rw [ServiceIdentity.ToK8sServiceAccount, h]

/-- Without a dot, `chunks[1]` is out of range. -/
theorem ToK8sServiceAccount_of_not_mem {si : ServiceIdentity} (h : '.' ∉ si.toList) :
    si.ToK8sServiceAccount = .error (ExceptLoop.indexOutOfRange 1 1) := by
  rw [ServiceIdentity.ToK8sServiceAccount, GoText.split_of_not_mem '.' _ h]
  rfl

/-- `ToK8sServiceAccount` fails exactly on an identity without a dot. -/
theorem ToK8sServiceAccount_eq_error_iff (si : ServiceIdentity) :
    (∃ e, si.ToK8sServiceAccount = .error e) ↔ '.' ∉ si.toList := by
  by_cases hdot : '.' ∈ si.toList
  · obtain ⟨a, b, rest, hsplit⟩ := GoText.exists_split_eq_cons_cons hdot
    simp [ToK8sServiceAccount_of_split hsplit, hdot]
  · simp [ToK8sServiceAccount_of_not_mem hdot, hdot]

/-- The identity of a name and a namespace without dots reads back as its service account. -/
theorem ToK8sServiceAccount_New {name ns : String} (hname : '.' ∉ name.toList)
    (hns : '.' ∉ ns.toList) : (New name ns).ToK8sServiceAccount = .ok { Namespace := ns, Name := name } := by
  have hsplit : GoText.split '.' (New name ns).toList = [name.toList, ns.toList] := by
    rw [New_toList, GoText.split_append_cons_of_not_mem '.' hname, GoText.split_of_not_mem '.' _ hns]
  rw [ToK8sServiceAccount_of_split hsplit, String.ofList_toList, String.ofList_toList]

/-- `ToK8sServiceAccount` reads only the first two fields: it gives a name and a namespace
    without dots for their identity and for every identity that goes on after a further
    dot, and for no other. -/
theorem ToK8sServiceAccount_eq_ok_iff {si : ServiceIdentity} {name ns : String}
    (hname : '.' ∉ name.toList) (hns : '.' ∉ ns.toList) :
    si.ToK8sServiceAccount = .ok { Namespace := ns, Name := name } ↔
      si = New name ns ∨ ∃ rest, si = New name ns ++ "." ++ rest := by
  constructor
  · intro h
    by_cases hdot : '.' ∈ si.toList
    · obtain ⟨a, b, rest, hsplit⟩ := GoText.exists_split_eq_cons_cons hdot
      rw [ToK8sServiceAccount_of_split hsplit, Except.ok.injEq, K8sServiceAccount.mk.injEq] at h
      obtain ⟨rfl, rfl⟩ := h
      -- the identity is its pieces joined at the dots
      have hjoin := GoText.intercalate_split '.' si.toList
      rw [hsplit] at hjoin
      cases rest with
      | nil =>
        left
        apply String.toList_injective
        rw [New_toList, ← hjoin, String.toList_ofList, String.toList_ofList]
        simp
      | cons r rs =>
        right
        refine ⟨String.ofList (List.intercalate ['.'] (r :: rs)), String.toList_injective ?_⟩
        rw [← hjoin, List.intercalate_cons_cons, List.intercalate_cons_cons]
        simp [New_toList, String.toList_append]
    · rw [ToK8sServiceAccount_of_not_mem hdot] at h
      cases h
  · rintro (rfl | ⟨rest, rfl⟩)
    · exact ToK8sServiceAccount_New hname hns
    · have hsplit : GoText.split '.' (New name ns ++ "." ++ rest).toList =
          name.toList :: ns.toList :: GoText.split '.' rest.toList := by
        have hlist : (New name ns ++ "." ++ rest).toList =
            name.toList ++ '.' :: (ns.toList ++ '.' :: rest.toList) := by
          simp [New_toList, String.toList_append]
        rw [hlist, GoText.split_append_cons_of_not_mem '.' hname,
          GoText.split_append_cons_of_not_mem '.' hns]
      rw [ToK8sServiceAccount_of_split hsplit, String.ofList_toList, String.ofList_toList]

end OsmEdge.Identity
