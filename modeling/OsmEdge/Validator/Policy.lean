import OsmEdge.Catalog.Backends
import OsmEdge.Lib.ExceptLoop
import OsmEdge.Lib.GoNet
import Mathlib.Data.Prod.Lex

/-
  The admission checks of AccessControl and IngressBackend resources (`accessControlValidator`
  and `ingressBackendValidator`, `pkg/validator/validators.go`), with the lookup of the policy
  client they call (`GetAccessControlPolicy`, `GetIngressBackendPolicy`, `pkg/policy/client.go`)
  and the conflict report (`pkg/policy/conflicts.go`).

  The two validators run one loop over the backends. A backend named twice (name and port) is
  refused at once. A policy of another name that the lookup finds for the backend is reported
  as a conflict, once per policy, and a backend whose policy was reported already skips the
  rest of the iteration. Otherwise the backend passes its validator's own check. After the
  loop a report is refused, and then every source is checked. The own checks are where the two
  differ:

  * an AccessControl backend with a TLS block that sets `SkipClientCertValidation` needs an
    `AuthenticatedPrincipal` source;
  * an IngressBackend backend must be `http`, `https` or `grpc`, lowered, and only a `grpc`
    backend whose TLS block sets `SkipClientCertValidation` needs an `AuthenticatedPrincipal`
    source: the `https` case of the switch is empty.

  Both messages speak of client certificate validation enabled, while the condition tests the
  flag that disables it.

  The lookup is asked with a service built from the backend alone, whose namespace is empty,
  and it returns only policies of the service's namespace: in a store of namespaced policies it
  finds none, so the conflict report is never written (`getPolicy_fakeMeshSvc`).

  The generic loop `validatePolicy` is the shared body; each validator is it applied to its
  resource, the header of its report and its own check.

  Proved:
  * `validatePolicy_ok_iff`: a validator accepts exactly when the backends are distinct, none
    meets a policy of another name, every backend passes the validator's check and every
    source is well formed; the loop and its early returns are gone from the statement.
  * `validators_check_skipped_client_certs`: the checks of the two validators, said without
    the loop. A TLS block with client certificate validation on is never refused for lack of
    an `AuthenticatedPrincipal` source.
  * `validators_ignore_store`: in a store of namespaced policies, both validators give the
    verdict they give against an empty store.

  An `IPRange` source is checked with `net.ParseCIDR`, which reads IPv4 and IPv6 ranges; the
  IPv6 text it reads is the argument `v6`. Left out: decoding the request (its error is
  returned as it is).
-/

namespace OsmEdge.Validator

open OsmEdge.Catalog OsmEdge.Service OsmEdge.Constants GoText

/-- What the validators and the policy client read of an AccessControl or an IngressBackend. -/
class PolicyResource (P : Type) where
  name : P → String
  ns : P → String
  backends : P → List BackendSpec
  sources : P → List SourceSpec

instance : PolicyResource AccessControl :=
  ⟨AccessControl.Name, AccessControl.Namespace, AccessControl.Backends, AccessControl.Sources⟩

instance : PolicyResource IngressBackend :=
  ⟨IngressBackend.Name, IngressBackend.Namespace, IngressBackend.Backends, IngressBackend.Sources⟩

open PolicyResource

/-! ## The policy client -/

section client

variable {P : Type} [PolicyResource P]

/-- The loop of `GetAccessControlPolicy` and `GetIngressBackendPolicy`: the first policy of the
    store, in the order the informer lists it, that is in the service's namespace and has a
    backend naming the service and its target port. -/
def getPolicy (store : List P) (svc : MeshService) : Option P :=
  store.find? fun p => ns p == svc.Namespace &&
    (backends p).any fun backend =>
      backend.Name == svc.Name && backend.Port.Number == (svc.TargetPort.toNat : Int)

/-- `Client.GetAccessControlPolicy`. -/
def GetAccessControlPolicy (store : List AccessControl) (svc : MeshService) : Option AccessControl :=
  getPolicy store svc

/-- `Client.GetIngressBackendPolicy`. -/
def GetIngressBackendPolicy (store : List IngressBackend) (svc : MeshService) :
    Option IngressBackend :=
  getPolicy store svc

/-- A store of policies that all have a namespace has none for a service with none. -/
theorem getPolicy_eq_none_of_ns (store : List P) (svc : MeshService) (hsvc : svc.Namespace = "")
    (hstore : ∀ p ∈ store, ns p ≠ "") : getPolicy store svc = none := by
  rw [getPolicy, List.find?_eq_none]
  intro p hp
  simp [hsvc, hstore p hp]

end client

/-! ## One backend -/

/-- The `setEntry` of a backend: its name and port. -/
def setEntry (backend : BackendSpec) : String × Int := (backend.Name, backend.Port.Number)

/-- `fakeMeshSvc`: the service a backend is looked up with, which has no namespace. -/
def fakeMeshSvc (backend : BackendSpec) : MeshService :=
  { Namespace := "", Name := backend.Name, Port := 0
    TargetPort := UInt16.ofInt backend.Port.Number, Protocol := backend.Port.Protocol }

/-- `authenticatedSourceFound`: some source is of kind `AuthenticatedPrincipal`. -/
def authenticatedSourceFound (sources : List SourceSpec) : Bool :=
  sources.any fun source => source.Kind == KindAuthenticatedPrincipal

/-- The test both validators make of a backend's TLS block ("If mTLS is enabled, verify there
    is an AuthenticatedPrincipal specified"), with the validator's message: it refuses a block
    that sets `SkipClientCertValidation` when no source is an `AuthenticatedPrincipal`. -/
def clientCertCheck (message : String) (sources : List SourceSpec) (backend : BackendSpec) :
    Except String Unit :=
  match backend.TLS with
  | some tls =>
    if tls.SkipClientCertValidation && !authenticatedSourceFound sources then .error message
    else .ok ()
  | none => .ok ()

/-- The check the AccessControl validator makes of one backend. -/
def accessControlBackendCheck (sources : List SourceSpec) (backend : BackendSpec) :
    Except String Unit :=
  clientCertCheck ("HTTPS acl with client certificate validation enabled must specify at " ++
    "least one 'AuthenticatedPrincipal` source") sources backend

/-- The check the IngressBackend validator makes of one backend: the switch on its lowered
    protocol, whose `http` and `https` cases are empty. -/
def ingressBackendCheck (sources : List SourceSpec) (backend : BackendSpec) : Except String Unit :=
  let protocol := toLower backend.Port.Protocol
  if protocol = ProtocolHTTP then .ok ()
  else if protocol = ProtocolHTTPS then .ok ()
  else if protocol = ProtocolGRPC then
    clientCertCheck ("HTTPS ingress with client certificate validation enabled must specify at " ++
      "least one 'AuthenticatedPrincipal` source") sources backend
  else
    .error ("Expected 'port.protocol' to be 'http', 'https' or 'grpc', got: " ++
      backend.Port.Protocol)

/-- The check of one source, the same in both validators. -/
def validateSource (v6 : GoNet.V6Text) (source : SourceSpec) : Except String Unit :=
  if source.Kind = KindService then
    if source.Name = "" then
      .error ("'source.name' not specified for source kind " ++ KindService)
    else if source.Namespace = "" then
      .error ("'source.namespace' not specified for source kind " ++ KindService)
    else .ok ()
  else if source.Kind = KindAuthenticatedPrincipal then
    if source.Name = "" then
      .error ("'source.name' not specified for source kind " ++ KindAuthenticatedPrincipal)
    else .ok ()
  else if source.Kind = KindIPRange then
    if (GoNet.ParseCIDR v6 source.Name.toList).isSome then .ok ()
    else
      .error ("Invalid 'source.name' value specified for IPRange. Expected CIDR notation " ++
        "'a.b.c.d/x', got '" ++ source.Name ++ "'")
  else
    .error ("Invalid 'source.kind' value specified. Must be one of: " ++ KindService ++ ", " ++
      KindAuthenticatedPrincipal ++ ", " ++ KindIPRange)

/-- The TLS test refuses exactly a block that skips client certificate validation, and only
    when no source is an `AuthenticatedPrincipal`. -/
theorem clientCertCheck_ok_iff (message : String) (sources : List SourceSpec)
    (backend : BackendSpec) :
    clientCertCheck message sources backend = .ok () ↔
      (backend.TLS.map (·.SkipClientCertValidation) = some true →
        authenticatedSourceFound sources = true) := by
  unfold clientCertCheck
  cases backend.TLS with
  | none => simp
  | some tls =>
    obtain ⟨skip, sniHosts⟩ := tls
    cases skip <;> cases authenticatedSourceFound sources <;> simp

/-- The IngressBackend check: one of the three protocols, and the TLS test for `grpc` only. -/
theorem ingressBackendCheck_ok_iff (sources : List SourceSpec) (backend : BackendSpec) :
    ingressBackendCheck sources backend = .ok () ↔
      toLower backend.Port.Protocol ∈ [ProtocolHTTP, ProtocolHTTPS, ProtocolGRPC] ∧
        (toLower backend.Port.Protocol = ProtocolGRPC →
          backend.TLS.map (·.SkipClientCertValidation) = some true →
            authenticatedSourceFound sources = true) := by
  unfold ingressBackendCheck
  dsimp only
  -- the three cases of the switch, then its default
  by_cases hhttp : toLower backend.Port.Protocol = ProtocolHTTP
  · simp [hhttp, ProtocolHTTP, ProtocolGRPC]
  by_cases hhttps : toLower backend.Port.Protocol = ProtocolHTTPS
  · simp [hhttps, ProtocolHTTPS, ProtocolGRPC]
  by_cases hgrpc : toLower backend.Port.Protocol = ProtocolGRPC
  · rw [if_neg hhttp, if_neg hhttps, if_pos hgrpc, clientCertCheck_ok_iff]
    simp [hgrpc]
  · simp [hhttp, hhttps, hgrpc]

/-! ## The loop over the backends -/

/-- The state of the backends loop: the backends seen (`backends`), the policies reported
    (`conflictingAcls`, `conflictingIngressBackends`; a policy is one object of the store,
    told apart by its namespace and name), and the report (`conflictString`). -/
structure ValidatorState where
  seen : List (String × Int)
  conflicting : List (String × String)
  conflictString : String

section loop

variable {P : Type} [PolicyResource P] (v6 : GoNet.V6Text) (E : GoSet.Enumerator (String × Int))
  (store : List P) (kind : String) (self : P) (check : BackendSpec → Except String Unit)

/-- `DetectAccessControlConflicts` and `DetectIngressBackendConflicts`: an error for each
    backend (name and port) the two policies share, in the order the runtime lists the set. -/
def detectConflicts (x y : P) : List String :=
  (E.enum (((backends x).map setEntry).toFinset ∩ ((backends y).map setEntry).toFinset)).map
    fun b => "Backend " ++ b.1 ++ " specified in " ++ name x ++ " and " ++ name y ++ " conflicts"

/-- What the validator writes to `conflictString` for a policy of another name. -/
def conflictReport (matchingPolicy : P) : String :=
  "[+] " ++ kind ++ " " ++ ns self ++ "/" ++ name self ++ " conflicts with " ++ ns self ++ "/" ++
    name matchingPolicy ++ ":\n" ++
    String.join ((detectConflicts E self matchingPolicy).map (· ++ "\n")) ++ "\n"

/-- One iteration of the backends loop. -/
def validateBackend (st : ValidatorState) (backend : BackendSpec) :
    Except String ValidatorState :=
  if setEntry backend ∈ st.seen then
    .error ("Duplicate backends detected with service name: " ++ backend.Name ++ " and port: " ++
      toString backend.Port.Number)
  else
    let st := { st with seen := st.seen ++ [setEntry backend] }
    match getPolicy store (fakeMeshSvc backend) with
    | some matchingPolicy =>
      if name matchingPolicy ≠ name self then
        -- a policy reported already: `continue`, past the validator's own check
        if (ns matchingPolicy, name matchingPolicy) ∈ st.conflicting then .ok st
        else
          let st := { st with
            conflicting := st.conflicting ++ [(ns matchingPolicy, name matchingPolicy)]
            conflictString := st.conflictString ++ conflictReport E kind self matchingPolicy }
          (check backend).map fun _ => st
      else (check backend).map fun _ => st
    | none => (check backend).map fun _ => st

/-- The lookup finds no policy of another name for the backend. -/
def NoConflict (backend : BackendSpec) : Prop :=
  ∀ matchingPolicy, getPolicy store (fakeMeshSvc backend) = some matchingPolicy →
    name matchingPolicy = name self

/-- What the backends loop lets through before the validator's own check: backends named once,
    none of which meets a policy of another name. -/
structure LoopAdmissible : Prop where
  distinct : ((backends self).map setEntry).Nodup
  noConflict : ∀ backend ∈ backends self, NoConflict store self backend

/-- The body the two validators share. -/
def validatePolicy : Except String Unit := do
  let st ← (backends self).foldlM (validateBackend E store kind self check) ⟨[], [], ""⟩
  if st.conflictString ≠ "" then
    .error ("duplicate backends detected\n" ++ st.conflictString)
  else
    (sources self).forM (validateSource v6)

end loop

/-! ## What one iteration does -/

section step

variable {P : Type} [PolicyResource P] {E : GoSet.Enumerator (String × Int)} {store : List P}
  {kind : String} {self : P} {check : BackendSpec → Except String Unit}

/-- A report ends with a line break, so it is never empty. -/
theorem conflictReport_ne_empty (matchingPolicy : P) :
    conflictReport E kind self matchingPolicy ≠ "" := by
  intro h
  unfold conflictReport at h
  exact absurd (String.append_eq_empty_iff.mp h).2 (by decide)

/-- Everything an iteration that succeeds can have done: it met a new backend, and either the
    backend passed the lookup and the check and nothing was reported, or it met a policy of
    another name, which was reported already or is reported now. -/
theorem validateBackend_ok {st st' : ValidatorState} {backend : BackendSpec}
    (h : validateBackend E store kind self check st backend = .ok st') :
    setEntry backend ∉ st.seen ∧ st'.seen = st.seen ++ [setEntry backend] ∧
    ((NoConflict store self backend ∧ check backend = .ok () ∧ st'.conflicting = st.conflicting ∧
        st'.conflictString = st.conflictString) ∨
      (¬ NoConflict store self backend ∧ st.conflicting ≠ [] ∧
        st'.conflictString = st.conflictString) ∨
      (¬ NoConflict store self backend ∧ ∃ report, report ≠ "" ∧
        st'.conflicting ≠ [] ∧ st'.conflictString = st.conflictString ++ report)) := by
  unfold validateBackend at h
  dsimp only at h
  split at h
  · cases h
  rename_i hfresh
  refine ⟨hfresh, ?_⟩
  -- the check's outcome is shared by the three branches that make it
  have hmap : ∀ st₁ : ValidatorState, (check backend).map (fun _ => st₁) = .ok st' →
      check backend = .ok () ∧ st' = st₁ := by
    intro st₁ hst
    cases hc : check backend with
    | error e => rw [hc] at hst; cases hst
    | ok u => rw [hc] at hst; cases hst; exact ⟨rfl, rfl⟩
  split at h
  · rename_i matchingPolicy hget
    split at h
    · rename_i hother
      have hconflict : ¬ NoConflict store self backend := fun hnc => hother (hnc _ hget)
      split at h
      · rename_i hreported
        cases h
        exact ⟨rfl, .inr (.inl ⟨hconflict, List.ne_nil_of_mem hreported, rfl⟩)⟩
      · obtain ⟨-, rfl⟩ := hmap _ h
        exact ⟨rfl, .inr (.inr ⟨hconflict, _, conflictReport_ne_empty matchingPolicy,
          by simp, rfl⟩)⟩
    · rename_i hsame
      obtain ⟨hcheck, rfl⟩ := hmap _ h
      refine ⟨rfl, .inl ⟨fun m hm => ?_, hcheck, rfl, rfl⟩⟩
      rw [hget, Option.some.injEq] at hm
      subst hm
      exact not_not.mp hsame
  · rename_i hget
    obtain ⟨hcheck, rfl⟩ := hmap _ h
    exact ⟨rfl, .inl ⟨fun m hm => by simp [hget] at hm, hcheck, rfl, rfl⟩⟩

/-- An iteration only appends to the report. -/
theorem validateBackend_conflictString {st st' : ValidatorState} {backend : BackendSpec}
    (h : validateBackend E store kind self check st backend = .ok st') :
    ∃ t, st'.conflictString = st.conflictString ++ t := by
  obtain ⟨-, -, ⟨-, -, -, hcs⟩ | ⟨-, -, hcs⟩ | ⟨-, report, -, -, hcs⟩⟩ := validateBackend_ok h
  · exact ⟨"", by simp [hcs]⟩
  · exact ⟨"", by simp [hcs]⟩
  · exact ⟨report, hcs⟩

/-- A backend that is new and passes the lookup meets only its own check. -/
theorem validateBackend_of_noConflict {st : ValidatorState} {backend : BackendSpec}
    (hfresh : setEntry backend ∉ st.seen) (hnc : NoConflict store self backend) :
    validateBackend E store kind self check st backend =
      (check backend).map fun _ => { st with seen := st.seen ++ [setEntry backend] } := by
  unfold validateBackend
  rw [if_neg hfresh]
  cases hget : getPolicy store (fakeMeshSvc backend) with
  | none => rfl
  | some matchingPolicy =>
    have hsame : name matchingPolicy = name self := hnc _ hget
    simp [hsame]

/-! ## The whole loop -/

/-- The loop only appends to the report. -/
theorem foldlM_validateBackend_conflictString :
    ∀ (backendList : List BackendSpec) (st st' : ValidatorState),
      backendList.foldlM (validateBackend E store kind self check) st = .ok st' →
      ∃ t, st'.conflictString = st.conflictString ++ t
  | [], st, st', h => by
    cases h
    exact ⟨"", by simp⟩
  | backend :: backendList, st, st', h => by
    cases hstep : validateBackend E store kind self check st backend with
    | error e => rw [ExceptLoop.foldlM_cons_error backendList hstep] at h; cases h
    | ok st₁ =>
      rw [ExceptLoop.foldlM_cons_ok backendList hstep] at h
      obtain ⟨t₁, h₁⟩ := validateBackend_conflictString hstep
      obtain ⟨t₂, h₂⟩ := foldlM_validateBackend_conflictString backendList st₁ st' h
      exact ⟨t₁ ++ t₂, by rw [h₂, h₁, String.append_assoc]⟩

/-- A run of the loop from a state with no report ends with no report exactly when its
    backends are new and distinct and each passes the lookup and the check. The invariant
    that carries it: a state that has reported a policy has a report. -/
theorem foldlM_validateBackend_iff :
    ∀ (backendList : List BackendSpec) (st : ValidatorState),
      (st.conflicting ≠ [] → st.conflictString ≠ "") →
      ((∃ st', backendList.foldlM (validateBackend E store kind self check) st = .ok st' ∧
          st'.conflictString = "") ↔
        st.conflictString = "" ∧ (backendList.map setEntry).Nodup ∧
          (∀ backend ∈ backendList, setEntry backend ∉ st.seen) ∧
          ∀ backend ∈ backendList, NoConflict store self backend ∧ check backend = .ok ())
  | [], st, _ => by simp [pure, Except.pure]
  | backend :: backendList, st, hreported => by
    constructor
    · rintro ⟨st', hrun, hempty⟩
      cases hstep : validateBackend E store kind self check st backend with
      | error e => rw [ExceptLoop.foldlM_cons_error backendList hstep] at hrun; cases hrun
      | ok st₁ =>
        rw [ExceptLoop.foldlM_cons_ok backendList hstep] at hrun
        -- the report of every intermediate state is a prefix of the empty final one
        have hst₁ : st₁.conflictString = "" := by
          obtain ⟨t, ht⟩ := foldlM_validateBackend_conflictString backendList st₁ st' hrun
          rw [hempty, eq_comm, String.append_eq_empty_iff] at ht
          exact ht.1
        obtain ⟨hfresh, hseen, hcases⟩ := validateBackend_ok hstep
        rcases hcases with ⟨hnc, hcheck, hconf, hcs⟩ | ⟨-, hne, hcs⟩ | ⟨-, report, hr, -, hcs⟩
        · have hinv : st₁.conflicting ≠ [] → st₁.conflictString ≠ "" := by
            rw [hconf, hcs]; exact hreported
          obtain ⟨-, hnodup, hnew, hgood⟩ :=
            (foldlM_validateBackend_iff backendList st₁ hinv).1 ⟨st', hrun, hempty⟩
          refine ⟨hcs ▸ hst₁, ?_, ?_, ?_⟩
          · refine List.nodup_cons.2 ⟨fun hmem => ?_, hnodup⟩
            obtain ⟨b, hb, hkey⟩ := List.mem_map.1 hmem
            exact hnew b hb (by simp [hseen, hkey])
          · intro b hb
            rcases List.mem_cons.1 hb with rfl | hb
            · exact hfresh
            · exact fun hmem => hnew b hb (by simp [hseen, hmem])
          · intro b hb
            rcases List.mem_cons.1 hb with rfl | hb
            · exact ⟨hnc, hcheck⟩
            · exact hgood b hb
        · exact absurd (hcs ▸ hst₁) (hreported hne)
        · rw [hcs, String.append_eq_empty_iff] at hst₁
          exact absurd hst₁.2 hr
    · rintro ⟨hcs, hnodup, hnew, hgood⟩
      obtain ⟨hnc, hcheck⟩ := hgood backend List.mem_cons_self
      have hstep : validateBackend E store kind self check st backend =
          (check backend).map fun _ => { st with seen := st.seen ++ [setEntry backend] } :=
        validateBackend_of_noConflict (hnew backend List.mem_cons_self) hnc
      rw [hcheck, ExceptLoop.map_ok] at hstep
      rw [ExceptLoop.foldlM_cons_ok backendList hstep]
      refine (foldlM_validateBackend_iff backendList { st with seen := st.seen ++ [setEntry backend] }
        hreported).2 ⟨hcs, (List.nodup_cons.1 hnodup).2, ?_,
          fun b hb => hgood b (List.mem_cons_of_mem _ hb)⟩
      intro b hb hmem
      rcases List.mem_append.1 hmem with hmem | hmem
      · exact hnew b (List.mem_cons_of_mem _ hb) hmem
      · rw [List.mem_singleton] at hmem
        exact (List.nodup_cons.1 hnodup).1 (hmem ▸ List.mem_map_of_mem hb)

end step

/-! ## A validator, without its loop -/

section policy

variable {P : Type} [PolicyResource P] (v6 : GoNet.V6Text) (E : GoSet.Enumerator (String × Int))
  (store : List P) (kind : String) (self : P) (check : BackendSpec → Except String Unit)

/-- A validator accepts exactly when its backends are distinct, none meets a policy of another
    name, each passes the validator's check, and every source is well formed. -/
theorem validatePolicy_ok_iff :
    validatePolicy v6 E store kind self check = .ok () ↔
      LoopAdmissible store self ∧ (∀ backend ∈ backends self, check backend = .ok ()) ∧
        ∀ source ∈ sources self, validateSource v6 source = .ok () := by
  have hloop := @foldlM_validateBackend_iff _ _ E store kind self check (backends self)
    ⟨[], [], ""⟩ (fun h => absurd rfl h)
  have hadm : (∃ st', (backends self).foldlM (validateBackend E store kind self check)
        ⟨[], [], ""⟩ = .ok st' ∧ st'.conflictString = "") ↔
      LoopAdmissible store self ∧ ∀ backend ∈ backends self, check backend = .ok () := by
    rw [hloop]
    constructor
    · rintro ⟨-, hnodup, -, hgood⟩
      exact ⟨⟨hnodup, fun b hb => (hgood b hb).1⟩, fun b hb => (hgood b hb).2⟩
    · rintro ⟨⟨hnodup, hnc⟩, hcheck⟩
      exact ⟨rfl, hnodup, fun _ _ => List.not_mem_nil, fun b hb => ⟨hnc b hb, hcheck b hb⟩⟩
  unfold validatePolicy
  cases hrun : (backends self).foldlM (validateBackend E store kind self check) ⟨[], [], ""⟩ with
  | error e =>
    -- the loop stopped early, so the backends are not admissible
    simp only [bind, Except.bind, reduceCtorEq, false_iff]
    rintro ⟨hadm₁, hcheck, -⟩
    obtain ⟨st', hst', -⟩ := hadm.2 ⟨hadm₁, hcheck⟩
    rw [hrun] at hst'
    cases hst'
  | ok st =>
    rw [hrun] at hadm
    simp only [bind, Except.bind]
    by_cases hcs : st.conflictString = ""
    · have hst : LoopAdmissible store self ∧ ∀ backend ∈ backends self, check backend = .ok () :=
        hadm.1 ⟨st, rfl, hcs⟩
      simp only [hcs, ne_eq, not_true_eq_false, if_false]
      rw [ExceptLoop.forM_ok_iff]
      exact ⟨fun h => ⟨hst.1, hst.2, h⟩, fun h => h.2.2⟩
    · simp only [hcs, ne_eq, not_false_eq_true, if_true, reduceCtorEq, false_iff]
      rintro ⟨hadm₁, hcheck, -⟩
      obtain ⟨st', hst', hcs'⟩ := hadm.2 ⟨hadm₁, hcheck⟩
      cases hst'
      exact hcs hcs'

/-- The loop reads the store only through the lookup of each backend. -/
theorem validatePolicy_congr_store {store' : List P}
    (h : ∀ backend, getPolicy store (fakeMeshSvc backend) = getPolicy store' (fakeMeshSvc backend)) :
    validatePolicy v6 E store kind self check = validatePolicy v6 E store' kind self check := by
  have hstep : validateBackend E store kind self check = validateBackend E store' kind self check := by
    funext st backend
    simp only [validateBackend, h]
  unfold validatePolicy
  rw [hstep]

/-- The lookup the validators make finds nothing in a store of namespaced policies: the
    service it is asked with has no namespace. -/
theorem getPolicy_fakeMeshSvc (hstore : ∀ p ∈ store, ns p ≠ "") (backend : BackendSpec) :
    getPolicy store (fakeMeshSvc backend) = none :=
  getPolicy_eq_none_of_ns store _ rfl hstore

end policy

/-- `accessControlValidator`, on the decoded resource. -/
def accessControlValidator (v6 : GoNet.V6Text) (E : GoSet.Enumerator (String × Int))
    (store : List AccessControl) (acl : AccessControl) : Except String Unit :=
  validatePolicy v6 E store "AccessControlBackend" acl (accessControlBackendCheck acl.Sources)

/-- `ingressBackendValidator`, on the decoded resource. -/
def ingressBackendValidator (v6 : GoNet.V6Text) (E : GoSet.Enumerator (String × Int))
    (store : List IngressBackend) (ingressBackend : IngressBackend) : Except String Unit :=
  validatePolicy v6 E store "IngressBackend" ingressBackend
    (ingressBackendCheck ingressBackend.Sources)

@[simp] theorem backends_accessControl (acl : AccessControl) : backends acl = acl.Backends := rfl
@[simp] theorem sources_accessControl (acl : AccessControl) : sources acl = acl.Sources := rfl
@[simp] theorem backends_ingressBackend (ingressBackend : IngressBackend) :
    backends ingressBackend = ingressBackend.Backends := rfl
@[simp] theorem sources_ingressBackend (ingressBackend : IngressBackend) :
    sources ingressBackend = ingressBackend.Sources := rfl

/-- What the two validators accept, said without their loop. Past the shared conditions (the
    backends distinct, no policy of another name, the sources well formed), the AccessControl
    validator asks for an `AuthenticatedPrincipal` source only of a backend whose TLS block
    skips client certificate validation; the IngressBackend validator asks for a protocol of
    the three, and for the source only of a `grpc` backend whose block skips it. A block that
    keeps the validation on is never refused for want of the source. -/
theorem validators_check_skipped_client_certs (v6 : GoNet.V6Text)
    (E : GoSet.Enumerator (String × Int))
    (aclStore : List AccessControl) (acl : AccessControl) (ingressStore : List IngressBackend)
    (ingressBackend : IngressBackend) :
    (accessControlValidator v6 E aclStore acl = .ok () ↔
      LoopAdmissible aclStore acl ∧
        (∀ backend ∈ acl.Backends,
          backend.TLS.map (·.SkipClientCertValidation) = some true →
            authenticatedSourceFound acl.Sources = true) ∧
        ∀ source ∈ acl.Sources, validateSource v6 source = .ok ()) ∧
    (ingressBackendValidator v6 E ingressStore ingressBackend = .ok () ↔
      LoopAdmissible ingressStore ingressBackend ∧
        (∀ backend ∈ ingressBackend.Backends,
          toLower backend.Port.Protocol ∈ [ProtocolHTTP, ProtocolHTTPS, ProtocolGRPC] ∧
            (toLower backend.Port.Protocol = ProtocolGRPC →
              backend.TLS.map (·.SkipClientCertValidation) = some true →
                authenticatedSourceFound ingressBackend.Sources = true)) ∧
        ∀ source ∈ ingressBackend.Sources, validateSource v6 source = .ok ()) := by
  constructor
  · rw [accessControlValidator, validatePolicy_ok_iff]
    simp only [backends_accessControl, sources_accessControl, accessControlBackendCheck,
      clientCertCheck_ok_iff]
  · rw [ingressBackendValidator, validatePolicy_ok_iff]
    simp only [backends_ingressBackend, sources_ingressBackend, ingressBackendCheck_ok_iff]

/-- An IngressBackend for `demo/bookstore` on port 14001 over `https`, with client certificate
    validation on and an ingress controller service as its only source. -/
def bookstoreIngressBackend : IngressBackend :=
  { Name := "bookstore", Namespace := "demo"
    Backends := [{ Name := "bookstore", Port := { Number := 14001, Protocol := "https" }
                   TLS := some { SkipClientCertValidation := false, SNIHosts := [] } }]
    Sources := [{ Kind := "Service", Name := "osm-ingress", Namespace := "ingress" }] }

example (v6 : GoNet.V6Text) (E : GoSet.Enumerator (String × Int)) :
    ingressBackendValidator v6 E [] bookstoreIngressBackend = .ok () := by
  rw [ingressBackendValidator, validatePolicy_ok_iff]
  refine ⟨⟨by decide, fun _ _ _ hm => by simp [getPolicy] at hm⟩, ?_, ?_⟩
  · simp only [backends_ingressBackend, bookstoreIngressBackend, List.mem_singleton, forall_eq]
    decide
  · -- a `Service` source is checked without reading an address
    simp only [sources_ingressBackend, bookstoreIngressBackend, List.mem_singleton, forall_eq]
    rfl

/-! ## The conflict check -/

/-- The conflict check of both validators is dead: in a store of namespaced policies their
    verdict is the one they give against an empty store, whatever the store holds. -/
theorem validators_ignore_store (v6 : GoNet.V6Text) (E : GoSet.Enumerator (String × Int))
    (aclStore : List AccessControl) (ingressStore : List IngressBackend)
    (haclStore : ∀ p ∈ aclStore, p.Namespace ≠ "")
    (hingressStore : ∀ p ∈ ingressStore, p.Namespace ≠ "")
    (acl : AccessControl) (ingressBackend : IngressBackend) :
    accessControlValidator v6 E aclStore acl = accessControlValidator v6 E [] acl ∧
      ingressBackendValidator v6 E ingressStore ingressBackend =
        ingressBackendValidator v6 E [] ingressBackend := by
  constructor
  · apply validatePolicy_congr_store
    intro backend
    rw [getPolicy_fakeMeshSvc aclStore haclStore backend]
    rfl
  · apply validatePolicy_congr_store
    intro backend
    rw [getPolicy_fakeMeshSvc ingressStore hingressStore backend]
    rfl

/-- Name and port pairs listed in lexicographic order. -/
def setEntryOrder : GoSet.Enumerator (String × Int) :=
  GoSet.Enumerator.sortedBy (toLex : String × Int → Lex (String × Int)) toLex.injective

/-- The AccessControl of the same backend as `bookstoreIngressBackend`. -/
def bookstoreAccessControl : AccessControl :=
  { Name := "bookstore", Namespace := "demo", Backends := bookstoreIngressBackend.Backends
    Sources := bookstoreIngressBackend.Sources }

/-- Stores that already hold an older policy, of another name, for the same backend. -/
theorem validators_ignore_store_bookstore :
    (∀ p ∈ [{ bookstoreAccessControl with Name := "bookstore-old" }], p.Namespace ≠ "") ∧
    (∀ p ∈ [{ bookstoreIngressBackend with Name := "bookstore-old" }], p.Namespace ≠ "") ∧
    (accessControlValidator GoNet.noV6Text setEntryOrder
        [{ bookstoreAccessControl with Name := "bookstore-old" }] bookstoreAccessControl =
        accessControlValidator GoNet.noV6Text setEntryOrder [] bookstoreAccessControl ∧
      ingressBackendValidator GoNet.noV6Text setEntryOrder
        [{ bookstoreIngressBackend with Name := "bookstore-old" }] bookstoreIngressBackend =
        ingressBackendValidator GoNet.noV6Text setEntryOrder [] bookstoreIngressBackend) :=
  ⟨by decide, by decide,
    validators_ignore_store GoNet.noV6Text setEntryOrder _ _ (by decide) (by decide)
      bookstoreAccessControl bookstoreIngressBackend⟩

end OsmEdge.Validator
