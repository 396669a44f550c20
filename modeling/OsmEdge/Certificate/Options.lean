import OsmEdge.Lib.GoSet

/-
  The certificates of `pkg/certificate` and the options of `IssueCertificate`
  (`pkg/certificate/options.go`).

  A `Certificate` keeps what the manager reads and writes of it: its common name, its DNS
  names (`SANames`), its expiry, its CAs, and the issuers and type the manager stamps on it.
  The `IssueOption`s are the three exported option functions, applied in order to the zero
  `issueOptions`. `formatCN` appends the trust domain unless the full common name was given;
  `uniqueSubjectAlternativeNames` drops, from a list of two names or more, the names with a
  colon (the `host:port` forms of `GetHostnamesForService`), the excluded names and the
  repeats.

  `Tresor.DNSNames` is what the tresor issuer writes as a certificate's DNS names: the common
  name followed by the names asked for, through `uniqueSubjectAlternativeNames` when there are
  two or more.

  Proved: which names `uniqueSubjectAlternativeNames`, `subjectAlternativeNames` and
  `DNSNames` keep, and that among names without a colon, which no filter removes, the DNS
  names of a certificate are its common name and the names asked for
  (`mem_DNSNames_subjectAlternativeNames`).
-/

namespace OsmEdge.Cert

/-- `CertType`: the kinds the package names, and any other string (the zero value `""`
    among them). -/
inductive CertType
  | Internal
  | IngressGateway
  | Service
  | other (name : String)
  deriving DecidableEq, Repr

/-- `pem.RootCertificate`: the bytes of PEM-encoded CA certificates. -/
abbrev RootCertificate := List UInt8

/-- `Certificate`, with the fields the manager reads and writes; times are in nanoseconds. -/
structure Certificate where
  CommonName : String
  SANames : List String
  Expiration : Int
  IssuingCA : RootCertificate
  TrustedCAs : RootCertificate
  signingIssuerID : String
  validatingIssuerID : String
  certType : CertType
  deriving DecidableEq, Repr

/-- `newMergedWithRoot`: a copy whose trust context is the issuing CA followed by `root`. -/
def Certificate.newMergedWithRoot (c : Certificate) (root : RootCertificate) : Certificate :=
  { c with TrustedCAs := c.IssuingCA ++ root }

/-- `issueOptions`; `validityDuration` is the pointer `ValidityDurationProvided` stores. -/
structure issueOptions where
  fullCNProvided : Bool := false
  validityDuration : Option Int := none
  saNames : List String := []
  deriving DecidableEq, Repr

/-- The exported `IssueOption`s. -/
inductive IssueOption
  | FullCNProvided
  | ValidityDurationProvided (validityDuration : Option Int)
  | SubjectAlternativeNames (saNames : List String)
  deriving DecidableEq, Repr

/-- What an option does to the options. -/
def IssueOption.apply : IssueOption → issueOptions → issueOptions
  | .FullCNProvided, opts => { opts with fullCNProvided := true }
  | .ValidityDurationProvided d, opts => { opts with validityDuration := d }
  | .SubjectAlternativeNames saNames, opts => { opts with saNames := saNames }

/-- `options := &issueOptions{}; for _, o := range opts { o(options) }`. -/
def applyOptions (opts : List IssueOption) : issueOptions :=
  opts.foldl (fun options o => o.apply options) {}

/-- `formatCN`: the prefix itself when it is the full common name, the prefix and the trust
    domain otherwise. -/
def issueOptions.formatCN (o : issueOptions) (cnPrefix trustDomain : String) : String :=
  if o.fullCNProvided then cnPrefix else cnPrefix ++ "." ++ trustDomain

/-- `uniqueSubjectAlternativeNames(saNames, excludeSANS...)`: a list of two names or more
    loses its names with a colon, the excluded names and its repeats; a shorter list is
    kept as it is. -/
def uniqueSubjectAlternativeNames (saNames excludeSANS : List String) : List String :=
  if saNames.length > 1 then
    GoSet.collectNew (saNames.filter fun san => ':' ∉ san.toList ∧ san ∉ excludeSANS)
  else saNames

/-- `subjectAlternativeNames`: the names of the options, made unique when there are two or
    more. -/
def issueOptions.subjectAlternativeNames (o : issueOptions) : List String :=
  if o.saNames.length > 1 then uniqueSubjectAlternativeNames o.saNames [] else o.saNames

/-- `validityPeriod`: the duration of the options if one was given. -/
def issueOptions.validityPeriod (o : issueOptions) (validityDuration : Int) : Int :=
  o.validityDuration.getD validityDuration

namespace Tresor

/-- The tresor's copy of `uniqueSubjectAlternativeNames` (`certificate_manager.go`), the
    same text as the one of `pkg/certificate`. -/
def uniqueSubjectAlternativeNames (saNames excludeSANS : List String) : List String :=
  Cert.uniqueSubjectAlternativeNames saNames excludeSANS

/-- The DNS names the tresor `CertManager.IssueCertificate` writes into a certificate:
    `DNSNames: []string{string(cn)}`, then the names asked for appended, then made unique when
    there are two or more. -/
def DNSNames (cn : String) (saNames : List String) : List String :=
  let names := if saNames.length > 0 then [cn] ++ saNames else [cn]
  if names.length > 1 then uniqueSubjectAlternativeNames names [] else names

/-- The tresor `CertManager.IssueCertificate` with the CA `ca`, called at the time `now`. The
    key, the serial number and the PEM encodings it makes are not modelled. -/
def IssueCertificate (ca : RootCertificate) (now : Int) (cn : String) (saNames : List String)
    (validityPeriod : Int) : Except String Certificate :=
  .ok { CommonName := cn, SANames := DNSNames cn saNames, Expiration := now + validityPeriod
        IssuingCA := ca, TrustedCAs := ca, signingIssuerID := "", validatingIssuerID := ""
        certType := .other "" }

end Tresor

/-- cert-manager's copy of `uniqueSubjectAlternativeNames` (`helpers.go`), the same text. -/
def CertManager.uniqueSubjectAlternativeNames (saNames excludeSANS : List String) :
    List String :=
  Cert.uniqueSubjectAlternativeNames saNames excludeSANS

/-- Vault's copy of `uniqueSubjectAlternativeNames` (`certificate_manager.go`), the same
    text. -/
def Vault.uniqueSubjectAlternativeNames (saNames excludeSANS : List String) : List String :=
  Cert.uniqueSubjectAlternativeNames saNames excludeSANS

/-! ## The options a call ends with -/

/-- The names a call asks for: those of its last `SubjectAlternativeNames`. -/
def requestedNames (opts : List IssueOption) : List String :=
  (opts.filterMap fun
    | .SubjectAlternativeNames saNames => some saNames
    | _ => none).getLast?.getD []

theorem saNames_foldl_apply :
    ∀ (o : issueOptions) (opts : List IssueOption),
      (opts.foldl (fun options o => o.apply options) o).saNames =
        ((opts.filterMap fun
          | .SubjectAlternativeNames saNames => some saNames
          | _ => none).getLast?.getD o.saNames)
  | _, [] => rfl
  | o, .FullCNProvided :: opts => saNames_foldl_apply _ opts
  | o, .ValidityDurationProvided _ :: opts => saNames_foldl_apply _ opts
  | o, .SubjectAlternativeNames saNames :: opts => by
    rw [List.foldl_cons, saNames_foldl_apply _ opts]
    -- the names set here stand unless a later option sets others
    cases h : (opts.filterMap fun
        | .SubjectAlternativeNames saNames => some saNames
        | _ => none).getLast? <;>
      simp_all [IssueOption.apply, List.getLast?_cons]

theorem fullCNProvided_foldl_apply :
    ∀ (o : issueOptions) (opts : List IssueOption),
      (opts.foldl (fun options o => o.apply options) o).fullCNProvided =
        (o.fullCNProvided || opts.contains .FullCNProvided)
  | _, [] => by simp
  | o, i :: opts => by
    rw [List.foldl_cons, fullCNProvided_foldl_apply _ opts]
    cases i <;> simp [IssueOption.apply]

/-- The names the options hold are the ones the call asks for. -/
@[simp] theorem saNames_applyOptions (opts : List IssueOption) :
    (applyOptions opts).saNames = requestedNames opts :=
  saNames_foldl_apply {} opts

/-- The full common name is given when the call passes `FullCNProvided`. -/
@[simp] theorem fullCNProvided_applyOptions (opts : List IssueOption) :
    (applyOptions opts).fullCNProvided = opts.contains .FullCNProvided := by
  rw [applyOptions, fullCNProvided_foldl_apply]
  rfl

/-! ## The names a certificate carries -/

section names

variable {x : String}

theorem mem_uniqueSubjectAlternativeNames {saNames excludeSANS : List String} :
    x ∈ uniqueSubjectAlternativeNames saNames excludeSANS ↔
      x ∈ saNames ∧ (saNames.length ≤ 1 ∨ ':' ∉ x.toList ∧ x ∉ excludeSANS) := by
  unfold uniqueSubjectAlternativeNames
  split
  · rename_i hlen
    simp only [GoSet.mem_collectNew, List.mem_filter, decide_eq_true_eq]
    constructor
    · rintro ⟨hx, hfilter⟩
      exact ⟨hx, .inr hfilter⟩
    · rintro ⟨hx, hle | hfilter⟩
      · omega
      · exact ⟨hx, hfilter⟩
  · rename_i hlen
    constructor
    · intro hx
      exact ⟨hx, .inl (by omega)⟩
    · exact fun h => h.1

theorem uniqueSubjectAlternativeNames_of_one_lt {saNames : List String} (excludeSANS : List String)
    (hlen : 1 < saNames.length) :
    uniqueSubjectAlternativeNames saNames excludeSANS =
      (saNames.filter fun san => ':' ∉ san.toList ∧ san ∉ excludeSANS).eraseDups := by
  rw [uniqueSubjectAlternativeNames, if_pos hlen, GoSet.collectNew_eq_eraseDups]

theorem uniqueSubjectAlternativeNames_of_le_one {saNames : List String} (excludeSANS : List String)
    (hlen : saNames.length ≤ 1) : uniqueSubjectAlternativeNames saNames excludeSANS = saNames := by
  rw [uniqueSubjectAlternativeNames, if_neg (by omega)]

/-- `uniqueSubjectAlternativeNames` is the filter followed by the order-preserving
    de-duplication exactly when the list has two names or more or all its names pass the
    filter: a single name with a colon or among the excluded ones is returned as it is. The
    four copies are one function. -/
theorem uniqueSubjectAlternativeNames_dedup_iff (saNames excludeSANS : List String) :
    (uniqueSubjectAlternativeNames saNames excludeSANS =
        (saNames.filter fun san => ':' ∉ san.toList ∧ san ∉ excludeSANS).eraseDups ↔
      1 < saNames.length ∨ ∀ san ∈ saNames, ':' ∉ san.toList ∧ san ∉ excludeSANS) ∧
    Tresor.uniqueSubjectAlternativeNames saNames excludeSANS =
      uniqueSubjectAlternativeNames saNames excludeSANS ∧
    CertManager.uniqueSubjectAlternativeNames saNames excludeSANS =
      uniqueSubjectAlternativeNames saNames excludeSANS ∧
    Vault.uniqueSubjectAlternativeNames saNames excludeSANS =
      uniqueSubjectAlternativeNames saNames excludeSANS := by
  refine ⟨?_, rfl, rfl, rfl⟩
  by_cases hlen : 1 < saNames.length
  · rw [uniqueSubjectAlternativeNames_of_one_lt excludeSANS hlen]
    exact iff_of_true rfl (.inl hlen)
  · -- no name or one: the list comes back unfiltered
    rw [uniqueSubjectAlternativeNames_of_le_one excludeSANS (by omega), or_iff_right hlen]
    match saNames, hlen with
    | [], _ => simp
    | [san], _ =>
      by_cases hsan : ':' ∉ san.toList ∧ san ∉ excludeSANS
      · simp [hsan, List.eraseDups_cons]
      · simp [hsan]
    | _ :: _ :: _, hlen => exact absurd (Nat.one_lt_succ_succ _) hlen

theorem mem_subjectAlternativeNames {o : issueOptions} :
    x ∈ o.subjectAlternativeNames ↔ x ∈ o.saNames ∧ (o.saNames.length ≤ 1 ∨ ':' ∉ x.toList) := by
  unfold issueOptions.subjectAlternativeNames
  split
  · rw [mem_uniqueSubjectAlternativeNames]
    simp
  · rename_i hlen
    constructor
    · intro hx
      exact ⟨hx, .inl (by omega)⟩
    · exact fun h => h.1

/-- The tresor's DNS names: the common name and the names asked for, without the names with a
    colon once there are names asked for. -/
theorem mem_DNSNames {cn : String} {saNames : List String} :
    x ∈ Tresor.DNSNames cn saNames ↔ (x = cn ∨ x ∈ saNames) ∧ (saNames = [] ∨ ':' ∉ x.toList) := by
  unfold Tresor.DNSNames Tresor.uniqueSubjectAlternativeNames
  cases saNames with
  | nil => simp
  | cons san sans =>
    -- the common name and one name asked for at least: the list is made unique
    simp only [List.length_cons, List.singleton_append, if_pos (Nat.succ_pos _), gt_iff_lt,
      Nat.one_lt_succ_succ, if_true, mem_uniqueSubjectAlternativeNames, List.mem_cons,
      List.not_mem_nil, not_false_eq_true, and_true, reduceCtorEq, false_or]
    constructor
    · rintro ⟨hx, hle | hcolon⟩
      · omega
      · exact ⟨hx, hcolon⟩
    · rintro ⟨hx, hcolon⟩
      exact ⟨hx, .inr hcolon⟩

/-- Among names without a colon, a certificate issued with the options `o` by the tresor
    carries its common name and the names `o` asks for, and nothing else. -/
theorem mem_DNSNames_subjectAlternativeNames {cn : String} {o : issueOptions}
    (hx : ':' ∉ x.toList) :
    x ∈ Tresor.DNSNames cn o.subjectAlternativeNames ↔ x = cn ∨ x ∈ o.saNames := by
  rw [mem_DNSNames, mem_subjectAlternativeNames]
  simp [hx]

end names

end OsmEdge.Cert
