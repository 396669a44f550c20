import Mathlib.Data.List.AList
import Mathlib.Data.String.Basic
import OsmEdge.Certificate.Options
import OsmEdge.Lib.GoMap
import OsmEdge.Lib.Sched

/-
  The certificate manager of `pkg/certificate/manager.go`: a cache of the certificates issued
  for each prefix, the two issuers that MeshRootCertificate (MRC) events set, and the
  `CertificateRotated` messages it publishes.

  `issueCertificate` hands out the cached certificate unless `ShouldRotate` finds it due (it
  expires within 30 s plus a random 0 to 4 s, or the manager's issuers are not the ones
  recorded on it). Otherwise it issues a new one with the signing issuer. It widens the new
  certificate's trust context by the validating CA when the two issuers differ, records both
  issuers on it, and caches it. When it replaced a cached certificate it publishes the
  rotation. On a rotation the names of the replaced certificate overwrite the names the call
  asked for. `checkAndRotate` calls it for every cached certificate, passing
  `FullCNProvided` when the cache key is the common name.

  The calls are run one at a time, so the `singleflight` group runs each call itself. What the
  clock and `rand.Intn` give a `ShouldRotate` is a `Draw`, an argument of the call. `NewManager`
  returns once an MRC event has set both issuers, so a `Manager` here has both.

  Proved:
  * `issueCertificate_outcome`: a call returns the cached certificate, or issues a first one,
    or rotates the cached one (`IssueOutcome`). What each case does to the cache and to the
    published messages.
  * `certificate_manager_contract`: take any state that a sequence of MRC events and calls
    reaches, with issuers that write the names as the tresor issuer does. A call there
    returns either the cached certificate, on which `ShouldRotate` is false, or a new
    certificate. The new one has the current issuers, the common name `formatCN` gives, and
    the validating CA in its trust context. A rotation is published exactly when a cached
    certificate is replaced. Among names without a colon, the new certificate carries its
    common name and the names asked for; on a rotation, the names of the replaced
    certificate instead.
  * `checkAndRotate_rotates_due`: the rotation job rotates exactly the due certificates and
    publishes their rotations in the order it visits them. A rotated certificate keeps the
    form of its common name and the names of the certificate it replaces.
-/

namespace OsmEdge.Cert

/-- The `Issuer` interface: `IssueCertificate(cn, saNames, validityPeriod)`. -/
abbrev Issuer := String → List String → Int → Except String Certificate

/-- `issuer`: an `Issuer` with the ID, trust domain and CA of the MRC it was made from. -/
structure issuer where
  Issuer : Issuer
  ID : String
  TrustDomain : String
  CertificateAuthority : RootCertificate

/-- `Status.State` of an MRC: the states `pkg/constants` names, and any other string. -/
inductive MRCState
  | validatingRollout
  | issuingRollout
  | active
  | issuingRollback
  | validatingRollback
  | inactive
  | error
  | other (state : String)
  deriving DecidableEq, Repr

/-- A `MeshRootCertificate`, with its name, `Spec.TrustDomain` and `Status.State`. -/
structure MeshRootCertificate where
  Name : String
  TrustDomain : String
  State : MRCState
  deriving DecidableEq, Repr

inductive MRCEventType
  | MRCEventAdded
  | MRCEventUpdated
  deriving DecidableEq, Repr

/-- `MRCEvent`; `EventType` is its field `Type`. -/
structure MRCEvent where
  EventType : MRCEventType
  MRC : MeshRootCertificate
  deriving DecidableEq, Repr

/-- A `CertificateRotated` message of the broker's certificate pub-sub. -/
structure PubSubMessage where
  OldObj : Certificate
  NewObj : Certificate
  deriving DecidableEq, Repr

/-- `Manager`, as `NewManager` returns it: both issuers are set. The two validity durations are
    what the getters the manager was made with answer. -/
structure Manager where
  cache : AList fun _ : String => Certificate
  ingressCertValidityDuration : Int
  serviceCertValidityDuration : Int
  signingIssuer : issuer
  validatingIssuer : issuer
  /-- What the manager has published on `msgBroker.GetCertPubSub()`. -/
  published : List PubSubMessage

/-- A second, in nanoseconds. -/
def second : Int := 1000000000

/-- `RenewBeforeCertExpires`. -/
def RenewBeforeCertExpires : Int := 30 * second

/-- `noiseSeconds`. -/
def noiseSeconds : Nat := 5

/-- `constants.OSMCertificateValidityPeriod`: a decade. -/
def OSMCertificateValidityPeriod : Int := 87600 * 3600 * second

/-- What a `ShouldRotate` call reads besides the certificate: the time, and what
    `rand.Intn(noiseSeconds)` answers. -/
structure Draw where
  now : Int
  intNoise : Fin noiseSeconds
  deriving DecidableEq, Repr

namespace Manager

/-- `handleMRCEvent`, with `GetCertIssuerForMRC` of the MRC client. -/
def handleMRCEvent
    (GetCertIssuerForMRC : MeshRootCertificate → Except String (Issuer × RootCertificate))
    (m : Manager) (event : MRCEvent) : Except String Manager :=
  match event.EventType with
  | .MRCEventAdded => do
    let mrc := event.MRC
    if mrc.State = .error then return m
    let (client, ca) ← GetCertIssuerForMRC mrc
    let c : issuer :=
      { Issuer := client, ID := mrc.Name, CertificateAuthority := ca
        TrustDomain := mrc.TrustDomain }
    match mrc.State with
    | .active => return { m with signingIssuer := c, validatingIssuer := c }
    | .issuingRollback | .issuingRollout => return { m with signingIssuer := c }
    | .validatingRollback | .validatingRollout => return { m with validatingIssuer := c }
    | _ => return { m with signingIssuer := c, validatingIssuer := c }
  | .MRCEventUpdated => return m

/-- `ShouldRotate`: the certificate expires within the renewal window, or the manager's
    issuers are not the ones recorded on it. -/
def ShouldRotate (m : Manager) (draw : Draw) (c : Certificate) : Bool :=
  let renewBefore := RenewBeforeCertExpires + (draw.intNoise.val : Int) * second
  if c.Expiration - draw.now ≤ renewBefore then true
  else c.signingIssuerID != m.signingIssuer.ID || c.validatingIssuerID != m.validatingIssuer.ID

/-- `getValidityDurationForCertType`. -/
def getValidityDurationForCertType (m : Manager) : CertType → Int
  | .Internal => OSMCertificateValidityPeriod
  | .IngressGateway => m.ingressCertValidityDuration
  | .Service => m.serviceCertValidityDuration
  | .other _ => OSMCertificateValidityPeriod

/-- The options `issueCertificate` issues with: those of the call, with the names of the
    cached certificate in place of the names asked for when it rotates that certificate. -/
def issueOptionsFor (opts : List IssueOption) : Option Certificate → issueOptions
  | some cert => { applyOptions opts with saNames := uniqueSubjectAlternativeNames cert.SANames [] }
  | none => applyOptions opts

/-- The certificate the signing issuer returned, with the validating CA merged into its trust
    context when the issuers differ, and the issuers and the type recorded on it. -/
def stamp (m : Manager) (ct : CertType) (newCert : Certificate) : Certificate :=
  let newCert := if m.validatingIssuer.ID ≠ m.signingIssuer.ID then
      newCert.newMergedWithRoot m.validatingIssuer.CertificateAuthority
    else newCert
  { newCert with signingIssuerID := m.signingIssuer.ID
                 validatingIssuerID := m.validatingIssuer.ID, certType := ct }

/-- The statements of `issueCertificate` after the cache lookup; `cert` is the cached
    certificate when it is rotated. -/
def issueNew (m : Manager) (cnPrefix : String) (ct : CertType) (opts : List IssueOption)
    (cert : Option Certificate) : Except String (Certificate × Manager) := do
  let options := issueOptionsFor opts cert
  let newCert ← m.signingIssuer.Issuer (options.formatCN cnPrefix m.signingIssuer.TrustDomain)
    options.subjectAlternativeNames (options.validityPeriod (m.getValidityDurationForCertType ct))
  let newCert := m.stamp ct newCert
  let published := match cert with
    | some cert => m.published ++ [{ OldObj := cert, NewObj := newCert }]
    | none => m.published
  return (newCert, { m with cache := m.cache.insert cnPrefix newCert, published := published })

/-- `issueCertificate`, which `IssueCertificate` runs. -/
def issueCertificate (m : Manager) (cnPrefix : String) (ct : CertType) (opts : List IssueOption)
    (draw : Draw) : Except String (Certificate × Manager) :=
  match m.cache.lookup cnPrefix with
  | some cert =>
    if m.ShouldRotate draw cert then m.issueNew cnPrefix ct opts (some cert) else .ok (cert, m)
  | none => m.issueNew cnPrefix ct opts none

/-- `ReleaseCertificate`. -/
def ReleaseCertificate (m : Manager) (key : String) : Manager :=
  { m with cache := m.cache.erase key }

/-- The options `checkAndRotate` passes for a cached certificate: the full common name and
    the certificate's other names when the cache key is its common name. -/
def rotateOptions (key : String) (cert : Certificate) : List IssueOption :=
  if key = cert.CommonName then
    [.FullCNProvided, .SubjectAlternativeNames (uniqueSubjectAlternativeNames cert.SANames [key])]
  else []

/-- One turn of the loop of `checkAndRotate`; an error is logged. -/
def rotateEntry (m : Manager) (entry : String × Certificate) (draw : Draw) : Manager :=
  match m.issueCertificate entry.1 entry.2.certType (rotateOptions entry.1 entry.2) draw with
  | .ok (_, m') => m'
  | .error _ => m

/-- `checkAndRotate`: the cache is copied into a map, which is ranged over in the order `E`. -/
def checkAndRotate (m : Manager) (E : GoSet.Enumerator String) (draws : String → Draw) :
    Manager :=
  (GoMap.range E m.cache).foldl (fun m entry => m.rotateEntry entry (draws entry.1)) m

end Manager

/-- A call on the manager, with what its `ShouldRotate`s draw. -/
inductive Op
  | mrcEvent (event : MRCEvent)
  | IssueCertificate (cnPrefix : String) (ct : CertType) (opts : List IssueOption) (draw : Draw)
  | ReleaseCertificate (key : String)
  | checkAndRotate (E : GoSet.Enumerator String) (draws : String → Draw)

/-- One call; an error leaves the manager as it was (the MRC watch logs it and goes on). -/
def Manager.step
    (GetCertIssuerForMRC : MeshRootCertificate → Except String (Issuer × RootCertificate))
    (m : Manager) : Op → Option Manager
  | .mrcEvent event =>
    match m.handleMRCEvent GetCertIssuerForMRC event with
    | .ok m' => some m'
    | .error _ => some m
  | .IssueCertificate cnPrefix ct opts draw =>
    match m.issueCertificate cnPrefix ct opts draw with
    | .ok (_, m') => some m'
    | .error _ => some m
  | .ReleaseCertificate key => some (m.ReleaseCertificate key)
  | .checkAndRotate E draws => some (m.checkAndRotate E draws)

/-! ## What a call may do -/

/-- An issuer that succeeds, with the common name asked for and the DNS names the tresor
    issuer writes. -/
def IssuesAsTresor (iss : Issuer) : Prop :=
  ∀ cn saNames validityPeriod, ∃ c, iss cn saNames validityPeriod = .ok c ∧
    c.CommonName = cn ∧ c.SANames = Tresor.DNSNames cn saNames

theorem tresor_issuesAsTresor (ca : RootCertificate) (now : Int) :
    IssuesAsTresor (Tresor.IssueCertificate ca now) :=
  fun _ _ _ => ⟨_, rfl, rfl, rfl⟩

namespace Manager

/-- A certificate issued now for `cnPrefix` with the options `opts`: it records the current
    issuers, its common name is the prefix, followed by the signing trust domain unless the
    full common name was given, and it trusts the validating CA when the issuers differ. -/
def IssuedNow (m : Manager) (cnPrefix : String) (opts : List IssueOption) (c : Certificate) :
    Prop :=
  c.signingIssuerID = m.signingIssuer.ID ∧ c.validatingIssuerID = m.validatingIssuer.ID ∧
  c.CommonName = (if opts.contains .FullCNProvided then cnPrefix
    else cnPrefix ++ "." ++ m.signingIssuer.TrustDomain) ∧
  (m.validatingIssuer.ID ≠ m.signingIssuer.ID →
    m.validatingIssuer.CertificateAuthority <:+ c.TrustedCAs)

end Manager

/-- Among names without a colon, `c` carries its common name and `names`, and no other. -/
def NamesAre (c : Certificate) (names : List String) : Prop :=
  ∀ x, ':' ∉ x.toList → (x ∈ c.SANames ↔ x = c.CommonName ∨ x ∈ names)

namespace Manager

/-- The three things a call of `issueCertificate` may do: hand out the cached certificate,
    on which `ShouldRotate` is false; issue a first certificate for the prefix, carrying the
    names asked for; or rotate the cached certificate, carrying its names, and publish the
    rotation. -/
def IssueOutcome (m : Manager) (cnPrefix : String) (opts : List IssueOption) (draw : Draw)
    (c : Certificate) (m' : Manager) : Prop :=
  (m.cache.lookup cnPrefix = some c ∧ m.ShouldRotate draw c = false ∧ m' = m) ∨
  (m.cache.lookup cnPrefix = none ∧ m.IssuedNow cnPrefix opts c ∧
    NamesAre c (requestedNames opts) ∧ m' = { m with cache := m.cache.insert cnPrefix c }) ∨
  (∃ old, m.cache.lookup cnPrefix = some old ∧ m.ShouldRotate draw old = true ∧
    m.IssuedNow cnPrefix opts c ∧ NamesAre c old.SANames ∧
    m' = { m with cache := m.cache.insert cnPrefix c
                  published := m.published ++ [{ OldObj := old, NewObj := c }] })

/-! ## Issuing -/

variable {m : Manager}

section stamp

variable {ct : CertType} {c : Certificate}

@[simp] theorem stamp_CommonName : (m.stamp ct c).CommonName = c.CommonName := by
  unfold stamp; split <;> rfl

@[simp] theorem stamp_SANames : (m.stamp ct c).SANames = c.SANames := by
  unfold stamp; split <;> rfl

/-- When the issuers differ, the stamped certificate trusts the validating CA. -/
theorem suffix_stamp_TrustedCAs (h : m.validatingIssuer.ID ≠ m.signingIssuer.ID) :
    m.validatingIssuer.CertificateAuthority <:+ (m.stamp ct c).TrustedCAs := by
  simp only [stamp, if_pos h, Certificate.newMergedWithRoot]
  exact List.suffix_append _ _

end stamp

@[simp] theorem fullCNProvided_issueOptionsFor (opts : List IssueOption)
    (cert : Option Certificate) :
    (issueOptionsFor opts cert).fullCNProvided = opts.contains .FullCNProvided := by
  cases cert <;> simp [issueOptionsFor]

/-- `issueNew` with an issuer that succeeds. -/
theorem issueNew_eq_ok {cnPrefix : String} {ct : CertType} {opts : List IssueOption}
    {cert : Option Certificate} {c₀ : Certificate}
    (h : m.signingIssuer.Issuer
      ((issueOptionsFor opts cert).formatCN cnPrefix m.signingIssuer.TrustDomain)
      (issueOptionsFor opts cert).subjectAlternativeNames
      ((issueOptionsFor opts cert).validityPeriod (m.getValidityDurationForCertType ct)) =
        .ok c₀) :
    m.issueNew cnPrefix ct opts cert =
      .ok (m.stamp ct c₀, { m with cache := m.cache.insert cnPrefix (m.stamp ct c₀)
                                   published := cert.elim m.published fun old =>
                                     m.published ++ [⟨old, m.stamp ct c₀⟩] }) := by
  unfold issueNew
  dsimp only
  rw [h]
  cases cert <;> rfl

/-- A certificate stamped by the manager after an issuer that writes the tresor's names, with
    the options `o`, is issued now and carries, among names without a colon, its common name
    and the names of `o`. -/
theorem issuedNow_stamp {cnPrefix : String} {ct : CertType} {opts : List IssueOption}
    {cert : Option Certificate} {c₀ : Certificate}
    (hcn : c₀.CommonName =
      (issueOptionsFor opts cert).formatCN cnPrefix m.signingIssuer.TrustDomain) :
    m.IssuedNow cnPrefix opts (m.stamp ct c₀) := by
  refine ⟨?_, ?_, ?_, suffix_stamp_TrustedCAs⟩
  · unfold stamp; split <;> rfl
  · unfold stamp; split <;> rfl
  · rw [stamp_CommonName, hcn, issueOptions.formatCN, fullCNProvided_issueOptionsFor]

theorem namesAre_stamp {ct : CertType} {c₀ : Certificate} (o : issueOptions)
    {names : List String} (hsan : c₀.SANames = Tresor.DNSNames c₀.CommonName o.subjectAlternativeNames)
    (hnames : ∀ x, ':' ∉ x.toList → (x ∈ o.saNames ↔ x ∈ names)) :
    NamesAre (m.stamp ct c₀) names := by
  intro x hx
  rw [stamp_SANames, stamp_CommonName, hsan, mem_DNSNames_subjectAlternativeNames hx,
    hnames x hx]

/-- The names of a rotation: among names without a colon, those of the replaced
    certificate. -/
theorem mem_saNames_issueOptionsFor_some {opts : List IssueOption} {cert : Certificate}
    {x : String} (hx : ':' ∉ x.toList) :
    x ∈ (issueOptionsFor opts (some cert)).saNames ↔ x ∈ cert.SANames := by
  simp only [issueOptionsFor, mem_uniqueSubjectAlternativeNames, List.not_mem_nil,
    not_false_eq_true, and_true]
  constructor
  · exact fun h => h.1
  · exact fun h => ⟨h, .inr hx⟩

/-- The first certificate for a prefix: issued now, with the names asked for. -/
theorem issueNew_none (hT : IssuesAsTresor m.signingIssuer.Issuer) (cnPrefix : String)
    (ct : CertType) (opts : List IssueOption) :
    ∃ c, m.issueNew cnPrefix ct opts none = .ok (c, { m with cache := m.cache.insert cnPrefix c })
      ∧ m.IssuedNow cnPrefix opts c ∧ NamesAre c (requestedNames opts) := by
  obtain ⟨c₀, hiss, hcn, hsan⟩ := hT _ _ _
  refine ⟨m.stamp ct c₀, issueNew_eq_ok hiss, issuedNow_stamp hcn,
    namesAre_stamp (issueOptionsFor opts none) (by rw [hsan, hcn]) ?_⟩
  intro x _
  simp [issueOptionsFor]

/-- A rotation: issued now, with the names of the replaced certificate, and published. -/
theorem issueNew_some (hT : IssuesAsTresor m.signingIssuer.Issuer) (cnPrefix : String)
    (ct : CertType) (opts : List IssueOption) (old : Certificate) :
    ∃ c, m.issueNew cnPrefix ct opts (some old) =
        .ok (c, { m with cache := m.cache.insert cnPrefix c
                         published := m.published ++ [{ OldObj := old, NewObj := c }] }) ∧
      m.IssuedNow cnPrefix opts c ∧ NamesAre c old.SANames := by
  obtain ⟨c₀, hiss, hcn, hsan⟩ := hT _ _ _
  refine ⟨m.stamp ct c₀, issueNew_eq_ok hiss, issuedNow_stamp hcn,
    namesAre_stamp (issueOptionsFor opts (some old)) (by rw [hsan, hcn]) ?_⟩
  intro x hx
  exact mem_saNames_issueOptionsFor_some hx

/-- Every call with an issuer that writes the tresor's names succeeds, in one of the three
    ways of `IssueOutcome`. -/
theorem issueCertificate_outcome (hT : IssuesAsTresor m.signingIssuer.Issuer)
    (cnPrefix : String) (ct : CertType) (opts : List IssueOption) (draw : Draw) :
    ∃ c m', m.issueCertificate cnPrefix ct opts draw = .ok (c, m') ∧
      m.IssueOutcome cnPrefix opts draw c m' := by
  unfold issueCertificate
  cases hcache : m.cache.lookup cnPrefix with
  | none =>
    obtain ⟨c, hissue, hnow, hnames⟩ := issueNew_none hT cnPrefix ct opts
    exact ⟨c, _, hissue, .inr (.inl ⟨hcache, hnow, hnames, rfl⟩)⟩
  | some old =>
    cases hdue : m.ShouldRotate draw old with
    | false => exact ⟨old, m, by simp [hdue], .inl ⟨hcache, hdue, rfl⟩⟩
    | true =>
      obtain ⟨c, hissue, hnow, hnames⟩ := issueNew_some hT cnPrefix ct opts old
      exact ⟨c, _, by simpa [hdue] using hissue,
        .inr (.inr ⟨old, hcache, hdue, hnow, hnames, rfl⟩)⟩

/-! ## The issuers along a run -/

section issuers

variable {cnPrefix : String} {ct : CertType} {opts : List IssueOption} {c : Certificate}
  {m' : Manager}

/-- Issuing leaves the issuers as they are. -/
theorem issueNew_issuers {cert : Option Certificate} (h : m.issueNew cnPrefix ct opts cert = .ok (c, m')) :
    m'.signingIssuer = m.signingIssuer ∧ m'.validatingIssuer = m.validatingIssuer := by
  unfold issueNew at h
  dsimp only at h
  cases hiss : m.signingIssuer.Issuer ((issueOptionsFor opts cert).formatCN cnPrefix
      m.signingIssuer.TrustDomain) (issueOptionsFor opts cert).subjectAlternativeNames
      ((issueOptionsFor opts cert).validityPeriod (m.getValidityDurationForCertType ct)) with
  | error err =>
    rw [hiss] at h
    cases h
  | ok c₀ =>
    rw [hiss] at h
    cases h
    exact ⟨rfl, rfl⟩

theorem issueCertificate_issuers {draw : Draw}
    (h : m.issueCertificate cnPrefix ct opts draw = .ok (c, m')) :
    m'.signingIssuer = m.signingIssuer ∧ m'.validatingIssuer = m.validatingIssuer := by
  unfold issueCertificate at h
  split at h
  · split at h
    · exact issueNew_issuers h
    · cases h
      exact ⟨rfl, rfl⟩
  · exact issueNew_issuers h

theorem rotateEntry_issuers (entry : String × Certificate) (draw : Draw) :
    (m.rotateEntry entry draw).signingIssuer = m.signingIssuer ∧
      (m.rotateEntry entry draw).validatingIssuer = m.validatingIssuer := by
  unfold rotateEntry
  split
  · rename_i h
    exact issueCertificate_issuers h
  · exact ⟨rfl, rfl⟩

/-- The rotation job leaves the issuers as they are. -/
theorem checkAndRotate_issuers (E : GoSet.Enumerator String) (draws : String → Draw) :
    (m.checkAndRotate E draws).signingIssuer = m.signingIssuer ∧
      (m.checkAndRotate E draws).validatingIssuer = m.validatingIssuer := by
  unfold checkAndRotate
  -- one turn of the loop at a time, from any manager
  suffices ∀ (entries : List (String × Certificate)) (m : Manager),
      (entries.foldl (fun m entry => m.rotateEntry entry (draws entry.1)) m).signingIssuer =
          m.signingIssuer ∧
        (entries.foldl (fun m entry => m.rotateEntry entry (draws entry.1)) m).validatingIssuer =
          m.validatingIssuer from this _ m
  intro entries
  induction entries with
  | nil => exact fun _ => ⟨rfl, rfl⟩
  | cons entry entries ih =>
    intro m
    obtain ⟨hs, hv⟩ := rotateEntry_issuers (m := m) entry (draws entry.1)
    rw [List.foldl_cons, (ih _).1, (ih _).2, hs, hv]
    exact ⟨rfl, rfl⟩

/-- An MRC event keeps the signing issuer or sets the one the MRC client made. -/
theorem handleMRCEvent_signingIssuer
    {GetCertIssuerForMRC : MeshRootCertificate → Except String (Issuer × RootCertificate)}
    {event : MRCEvent} (h : m.handleMRCEvent GetCertIssuerForMRC event = .ok m') :
    m'.signingIssuer = m.signingIssuer ∨
      ∃ ca, GetCertIssuerForMRC event.MRC = .ok (m'.signingIssuer.Issuer, ca) := by
  unfold handleMRCEvent at h
  split at h
  · dsimp only at h
    split at h
    · -- an MRC in the `error` state is skipped
      cases h
      exact .inl rfl
    · cases hissuer : GetCertIssuerForMRC event.MRC with
      | error err =>
        rw [hissuer] at h
        cases h
      | ok r =>
        obtain ⟨client, ca⟩ := r
        simp only [hissuer] at h
        -- the rollouts and rollbacks of the validating issuer keep the signing one
        split at h <;> cases h <;> simp
  · cases h
    exact .inl rfl

end issuers

end Manager

section run

variable (GetCertIssuerForMRC : MeshRootCertificate → Except String (Issuer × RootCertificate))

/-- Every call keeps a signing issuer that writes the tresor's names, when the MRC client
    makes only such issuers. -/
theorem Manager.step_issuesAsTresor
    (hclient : ∀ mrc client ca, GetCertIssuerForMRC mrc = .ok (client, ca) → IssuesAsTresor client)
    {m m' : Manager} {op : Op} (hT : IssuesAsTresor m.signingIssuer.Issuer)
    (h : m.step GetCertIssuerForMRC op = some m') : IssuesAsTresor m'.signingIssuer.Issuer := by
  cases op with
  | mrcEvent event =>
    simp only [Manager.step] at h
    split at h
    · rename_i m'' hevent
      cases h
      rcases Manager.handleMRCEvent_signingIssuer hevent with heq | ⟨ca, hclient'⟩
      · rwa [heq]
      · exact hclient _ _ _ hclient'
    · cases h
      exact hT
  | IssueCertificate cnPrefix ct opts draw =>
    simp only [Manager.step] at h
    split at h
    · rename_i c m'' hissue
      cases h
      rwa [(Manager.issueCertificate_issuers hissue).1]
    · cases h
      exact hT
  | ReleaseCertificate key =>
    cases h
    exact hT
  | checkAndRotate E draws =>
    cases h
    rwa [(Manager.checkAndRotate_issuers E draws).1]

theorem certificate_manager_contract
    (hclient : ∀ mrc client ca, GetCertIssuerForMRC mrc = .ok (client, ca) → IssuesAsTresor client)
    {m₀ m : Manager} (h₀ : IssuesAsTresor m₀.signingIssuer.Issuer)
    (hreach : Sched.Reachable (Manager.step GetCertIssuerForMRC) m₀ m)
    (cnPrefix : String) (ct : CertType) (opts : List IssueOption) (draw : Draw) :
    ∃ c m', m.issueCertificate cnPrefix ct opts draw = .ok (c, m') ∧
      m.IssueOutcome cnPrefix opts draw c m' := by
  -- the signing issuer writes the tresor's names in every state the run reaches
  have hT : IssuesAsTresor m.signingIssuer.Issuer :=
    Sched.Reachable.invariant (fun m => IssuesAsTresor m.signingIssuer.Issuer)
      (fun _ _ _ hs hstep => Manager.step_issuesAsTresor GetCertIssuerForMRC hclient hs hstep)
      h₀ hreach
  exact Manager.issueCertificate_outcome hT cnPrefix ct opts draw

end run

/-- An MRC client whose issuers are the tresor's with the CA `[1]`, at the time 0. -/
def tresorClient : MeshRootCertificate → Except String (Issuer × RootCertificate) :=
  fun _ => .ok (Tresor.IssueCertificate [1] 0, [1])

/-- The MRC `osm-mesh-root-certificate` of `cluster.local`, made by `tresorClient`. -/
def meshRoot : issuer :=
  { Issuer := Tresor.IssueCertificate [1] 0, ID := "osm-mesh-root-certificate"
    TrustDomain := "cluster.local", CertificateAuthority := [1] }

/-- A manager with nothing cached, whose certificates are valid for a day. -/
def freshManager : Manager :=
  { cache := ∅, ingressCertValidityDuration := 86400 * second
    serviceCertValidityDuration := 86400 * second, signingIssuer := meshRoot
    validatingIssuer := meshRoot, published := [] }

/-- The sidecar certificate of `bookstore.demo`, first issued with the name of its service and
    rotated ten seconds before it expires by a call that asks for a second service's name as
    well: the new certificate carries the names of the first, not the name asked for. -/
theorem rotation_ignores_requested_names :
    ∃ c₁ m₁ c₂ m₂,
      freshManager.issueCertificate "bookstore.demo" .Service
        [.SubjectAlternativeNames ["bookstore.demo"]] ⟨0, ⟨0, by decide⟩⟩ = .ok (c₁, m₁) ∧
      m₁.issueCertificate "bookstore.demo" .Service
        [.SubjectAlternativeNames ["bookstore.demo", "bookstore-v2.demo"]]
        ⟨86390 * second, ⟨0, by decide⟩⟩ = .ok (c₂, m₂) ∧
      "bookstore-v2.demo" ∉ c₂.SANames :=
  ⟨_, _, _, _, rfl, rfl, by decide⟩

/-! ## The rotation job -/

namespace Manager

variable {m : Manager}

/-- `checkAndRotate` passes `FullCNProvided` exactly when the cache key is the common name. -/
theorem contains_FullCNProvided_rotateOptions (key : String) (cert : Certificate) :
    (rotateOptions key cert).contains .FullCNProvided = decide (key = cert.CommonName) := by
  unfold rotateOptions
  split <;> simp_all

/-- One turn of the job on a cached certificate: the certificate stays when it is not due; when
    it is, it is replaced by a certificate issued now with its names, and the rotation is
    published. -/
theorem rotateEntry_cached (hT : IssuesAsTresor m.signingIssuer.Issuer) {key : String}
    {cert : Certificate} (hcached : m.cache.lookup key = some cert) (draw : Draw) :
    (m.ShouldRotate draw cert = false ∧ m.rotateEntry (key, cert) draw = m) ∨
    (m.ShouldRotate draw cert = true ∧ ∃ c, m.IssuedNow key (rotateOptions key cert) c ∧
      NamesAre c cert.SANames ∧
      m.rotateEntry (key, cert) draw =
        { m with cache := m.cache.insert key c, published := m.published ++ [⟨cert, c⟩] }) := by
  obtain ⟨c, m', hissue, hout⟩ :=
    issueCertificate_outcome hT key cert.certType (rotateOptions key cert) draw
  have hrot : m.rotateEntry (key, cert) draw = m' := by
    simp only [rotateEntry, hissue]
  rcases hout with ⟨hc, hdue, rfl⟩ | ⟨hnone, -⟩ | ⟨old, hold, hdue, hnow, hnames, rfl⟩
  · obtain rfl : cert = c := Option.some.inj (hcached.symm.trans hc)
    exact .inl ⟨hdue, hrot⟩
  · rw [hcached] at hnone
    cases hnone
  · obtain rfl : cert = old := Option.some.inj (hcached.symm.trans hold)
    exact .inr ⟨hdue, c, hnow, hnames, hrot⟩

/-- The loop of the job over cached entries of distinct keys: each entry is kept or rotated as
    `rotateEntry_cached` says, the other keys keep their certificates, and the rotations are
    published in the order of the entries. -/
theorem foldl_rotateEntry (draws : String → Draw) :
    ∀ (entries : List (String × Certificate)) (m : Manager),
      IssuesAsTresor m.signingIssuer.Issuer → (entries.map Prod.fst).Nodup →
      (∀ e ∈ entries, m.cache.lookup e.1 = some e.2) →
      let m' := entries.foldl (fun m entry => m.rotateEntry entry (draws entry.1)) m
      (∀ e ∈ entries, (m.ShouldRotate (draws e.1) e.2 = false → m'.cache.lookup e.1 = some e.2) ∧
        (m.ShouldRotate (draws e.1) e.2 = true → ∃ c, m'.cache.lookup e.1 = some c ∧
          m.IssuedNow e.1 (rotateOptions e.1 e.2) c ∧ NamesAre c e.2.SANames)) ∧
      (∀ key, key ∉ entries.map Prod.fst → m'.cache.lookup key = m.cache.lookup key) ∧
      m'.published = m.published ++ (entries.filter fun e => m.ShouldRotate (draws e.1) e.2).map
        fun e => ⟨e.2, (m'.cache.lookup e.1).getD e.2⟩
  | [], m, _, _, _ => by simp
  | (key, cert) :: entries, m, hT, hnodup, hcached => by
    simp only [List.map_cons, List.nodup_cons] at hnodup
    obtain ⟨hfresh, hnodup⟩ := hnodup
    have hkey : m.cache.lookup key = some cert := hcached _ List.mem_cons_self
    -- the entries after the first have other keys, which the first turn does not touch
    have hne : ∀ e ∈ entries, e.1 ≠ key := fun e he h =>
      hfresh (h ▸ List.mem_map_of_mem he)
    rcases rotateEntry_cached hT hkey (draws key) with ⟨hdue, hstep⟩ | ⟨hdue, c, hnow, hnames, hstep⟩
    · have ih := foldl_rotateEntry draws entries m hT hnodup
        (fun e he => hcached e (List.mem_cons_of_mem _ he))
      dsimp only at ih ⊢
      rw [List.foldl_cons, hstep]
      obtain ⟨hentries, hothers, hpub⟩ := ih
      refine ⟨?_, ?_, ?_⟩
      · intro e he
        rcases List.mem_cons.1 he with rfl | he
        · refine ⟨fun _ => ?_, fun h => absurd h (by simp [hdue])⟩
          rw [hothers _ hfresh, hkey]
        · exact hentries e he
      · intro k hk
        exact hothers k (fun h => hk (List.mem_cons_of_mem _ h))
      · rw [hpub, List.filter_cons_of_neg (by simp [hdue])]
    · -- the first certificate is rotated; the rest of the loop runs on the new manager, whose
      -- issuers, and so whose `ShouldRotate` and `IssuedNow`, are those of `m`
      have hcached₁ : ∀ e ∈ entries,
          ({ m with cache := m.cache.insert key c, published := m.published ++ [⟨cert, c⟩] } :
            Manager).cache.lookup e.1 = some e.2 := fun e he => by
        rw [AList.lookup_insert_ne (hne e he)]
        exact hcached e (List.mem_cons_of_mem _ he)
      have ih := foldl_rotateEntry draws entries
        { m with cache := m.cache.insert key c, published := m.published ++ [⟨cert, c⟩] } hT
        hnodup hcached₁
      dsimp only at ih ⊢
      rw [List.foldl_cons, hstep]
      obtain ⟨hentries, hothers, hpub⟩ := ih
      have hfirst : (entries.foldl (fun (m : Manager) entry => m.rotateEntry entry (draws entry.1))
          { m with cache := m.cache.insert key c
                   published := m.published ++ [{ OldObj := cert, NewObj := c }] }).cache.lookup
            key = some c := by
        rw [hothers _ hfresh, AList.lookup_insert]
      refine ⟨?_, ?_, ?_⟩
      · intro e he
        rcases List.mem_cons.1 he with rfl | he
        · exact ⟨fun h => absurd hdue (by simp [h]), fun _ => ⟨c, hfirst, hnow, hnames⟩⟩
        · exact hentries e he
      · intro k hk
        have hk' : k ≠ key := fun h => hk (h ▸ List.mem_cons_self)
        rw [hothers k (fun h => hk (List.mem_cons_of_mem _ h)), AList.lookup_insert_ne hk']
      · rw [hpub, List.filter_cons_of_pos (by simpa using hdue), List.map_cons, hfirst]
        simp only [Option.getD_some, List.append_assoc, List.singleton_append]
        rfl

/-- The rotation job: every cached certificate that `ShouldRotate` finds due is replaced by one
    issued now, with the common name of the same form (the key itself when the key was the
    common name, the key and the signing trust domain otherwise) and the names of the one it
    replaces; the others stay; and the rotations are published in the order the job visits
    them. -/
theorem checkAndRotate_rotates_due (hT : IssuesAsTresor m.signingIssuer.Issuer)
    (E : GoSet.Enumerator String) (draws : String → Draw) :
    let m' := m.checkAndRotate E draws
    (∀ key cert, m.cache.lookup key = some cert → m.ShouldRotate (draws key) cert = false →
      m'.cache.lookup key = some cert) ∧
    (∀ key cert, m.cache.lookup key = some cert → m.ShouldRotate (draws key) cert = true →
      ∃ c, m'.cache.lookup key = some c ∧
        c.CommonName = (if key = cert.CommonName then key
          else key ++ "." ++ m.signingIssuer.TrustDomain) ∧
        m.IssuedNow key (rotateOptions key cert) c ∧ NamesAre c cert.SANames) ∧
    (∀ key, m.cache.lookup key = none → m'.cache.lookup key = none) ∧
    m'.published = m.published ++
      ((GoMap.range E m.cache).filter fun e => m.ShouldRotate (draws e.1) e.2).map
        fun e => ⟨e.2, (m'.cache.lookup e.1).getD e.2⟩ := by
  intro m'
  have hrange : ∀ e ∈ GoMap.range E m.cache, m.cache.lookup e.1 = some e.2 :=
    fun e he => (GoMap.mem_range_iff E m.cache e.1 e.2).1 he
  obtain ⟨hentries, hothers, hpub⟩ :=
    foldl_rotateEntry draws (GoMap.range E m.cache) m hT (GoMap.nodup_map_fst_range E m.cache)
      hrange
  refine ⟨fun key cert hc hdue => ?_, fun key cert hc hdue => ?_, fun key hnone => ?_, hpub⟩
  · exact (hentries (key, cert) ((GoMap.mem_range_iff E m.cache key cert).2 hc)).1 hdue
  · obtain ⟨c, hlookup, hnow, hnames⟩ :=
      (hentries (key, cert) ((GoMap.mem_range_iff E m.cache key cert).2 hc)).2 hdue
    refine ⟨c, hlookup, ?_, hnow, hnames⟩
    rw [hnow.2.2.1, contains_FullCNProvided_rotateOptions]
    simp
  · -- a key with no certificate is not visited
    have hnot : key ∉ (GoMap.range E m.cache).map Prod.fst := fun h => by
      obtain ⟨e, he, rfl⟩ := List.mem_map.1 h
      rw [hrange e he] at hnone
      cases hnone
    rw [← hnone]
    exact hothers key hnot

end Manager


/-- A map's keys in their string order. -/
def keyOrder : GoSet.Enumerator String := GoSet.Enumerator.sortedBy id Function.injective_id

/-- `freshManager` once it has issued the sidecar certificate of `bookstore.demo`. -/
def bookstoreManager : Manager :=
  match freshManager.issueCertificate "bookstore.demo" .Service
      [.SubjectAlternativeNames ["bookstore.demo"]] ⟨0, ⟨0, by decide⟩⟩ with
  | .ok (_, m) => m
  | .error _ => freshManager

/-- The job run ten seconds before the day is out. -/
def nearExpiry : String → Draw := fun _ => ⟨86390 * second, ⟨0, by decide⟩⟩

example : (bookstoreManager.checkAndRotate keyOrder nearExpiry).published.length = 1 := by
  decide

/-- `bookstoreManager` once the rotation job has run ten seconds before the day is out: the
    certificate of `bookstore.demo` has been issued, cached and rotated. -/
def bookstoreRotated : Manager := bookstoreManager.checkAndRotate keyOrder nearExpiry

/-- The run that issues the certificate of `bookstore.demo` and rotates it, and a later call
    for it with a second name, at the end of the day. -/
theorem certificate_manager_contract_bookstore :
    Sched.Reachable (Manager.step tresorClient) freshManager bookstoreRotated ∧
    ∃ c m', bookstoreRotated.issueCertificate "bookstore.demo" .Service
        [.SubjectAlternativeNames ["bookstore.demo", "bookstore.demo:14001"]]
        ⟨86400 * second, ⟨0, by decide⟩⟩ = .ok (c, m') ∧
      bookstoreRotated.IssueOutcome "bookstore.demo"
        [.SubjectAlternativeNames ["bookstore.demo", "bookstore.demo:14001"]]
        ⟨86400 * second, ⟨0, by decide⟩⟩ c m' := by
  -- the first call issues and caches the certificate, the job rotates it
  have hreach : Sched.Reachable (Manager.step tresorClient) freshManager bookstoreRotated :=
    (Sched.Reachable.refl.tail (.IssueCertificate "bookstore.demo" .Service
      [.SubjectAlternativeNames ["bookstore.demo"]] ⟨0, ⟨0, by decide⟩⟩) rfl).tail
      (.checkAndRotate keyOrder nearExpiry) rfl
  exact ⟨hreach, certificate_manager_contract tresorClient
    (fun _ _ _ h => by cases h; exact tresor_issuesAsTresor _ _)
    (tresor_issuesAsTresor _ _) hreach _ _ _ _⟩

theorem checkAndRotate_rotates_due_bookstore :
    IssuesAsTresor bookstoreManager.signingIssuer.Issuer ∧
    let m' := bookstoreManager.checkAndRotate keyOrder nearExpiry
    (∀ key cert, bookstoreManager.cache.lookup key = some cert →
      bookstoreManager.ShouldRotate (nearExpiry key) cert = false →
      m'.cache.lookup key = some cert) ∧
    (∀ key cert, bookstoreManager.cache.lookup key = some cert →
      bookstoreManager.ShouldRotate (nearExpiry key) cert = true →
      ∃ c, m'.cache.lookup key = some c ∧
        c.CommonName = (if key = cert.CommonName then key
          else key ++ "." ++ bookstoreManager.signingIssuer.TrustDomain) ∧
        bookstoreManager.IssuedNow key (Manager.rotateOptions key cert) c ∧
        NamesAre c cert.SANames) ∧
    (∀ key, bookstoreManager.cache.lookup key = none → m'.cache.lookup key = none) ∧
    m'.published = bookstoreManager.published ++
      ((GoMap.range keyOrder bookstoreManager.cache).filter
          fun e => bookstoreManager.ShouldRotate (nearExpiry e.1) e.2).map
        fun e => ⟨e.2, (m'.cache.lookup e.1).getD e.2⟩ :=
  have hT : IssuesAsTresor bookstoreManager.signingIssuer.Issuer := tresor_issuesAsTresor _ _
  ⟨hT, Manager.checkAndRotate_rotates_due hT keyOrder nearExpiry⟩

end OsmEdge.Cert
