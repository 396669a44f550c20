import OsmEdge.Envoy.Ads.Stream

/-
  What the ADS state machine guarantees over every stream: every interleaving of
  `DiscoveryRequest`s with `SendDiscoveryResponse` calls, each of which may fail to send.

  The whole argument rests on one fact about nonces: `SetNewNonce` stores the decimal text
  of a clock reading, which is never empty, and nothing else ever stores a non-empty nonce
  or removes one (`GetLastSentNonce` only fills a missing entry with `""`). So once a
  response of type `t` has been built, `lastNonce[t]` stays non-empty (`NonceSet`), the
  reconnection branch of `respondToRequest` (the only other writer of `lastSentVersion`) is
  closed for `t`, and the version of type `t` moves only by the increments of
  `SendDiscoveryResponse`.

  Proved for every proxy state, reachable or not:
  * `respondToRequest_refuses`: unknown or empty type URL, a version that is neither empty
    nor a decimal `uint64`, a NACK, or a stale nonce: the answer is `false` and the proxy is
    the one given, except that a missing nonce entry now holds `""`.
  * `respondToRequest_empty_nonce`: a request that passes those checks with an empty nonce
    is answered.
  * `response_versions_chain`: after a response of type `t`, the responses of type `t` carry
    versions one apart (a Go `uint64` increment).
  * `ack_not_answered`: the ACK of a response that covered every subscribed name is not
    answered again, as long as no later response of that type went out.
-/

namespace OsmEdge.Ads

open OsmEdge.Envoy

/-! ## Small facts about the proxy accessors -/

theorem Proxy.GetLastSentNonce_twice (p : Proxy) (t : String) :
    (p.GetLastSentNonce t).2.GetLastSentNonce t =
      (((p.GetLastSentNonce t).2.lastNonce t).getD "", (p.GetLastSentNonce t).2) := by
  unfold Proxy.GetLastSentNonce
  cases h : p.lastNonce t with
  | some n => simp [h]
  | none => simp

/-- A proxy that already holds a non-empty nonce for `t`: a response of type `t` has been
    built for it. -/
def NonceSet (p : Proxy) (t : String) : Prop :=
  ∃ n, p.lastNonce t = some n ∧ n ≠ ""

theorem NonceSet.getLastSentNonce {p : Proxy} {t : String} (h : NonceSet p t) (t' : String) :
    NonceSet (p.GetLastSentNonce t').2 t := by
  obtain ⟨n, hn, hne⟩ := h
  refine ⟨n, ?_, hne⟩
  rw [Proxy.GetLastSentNonce_snd_lastNonce]
  by_cases ht : t = t'
  · subst ht
    simp [hn]
  · rw [Function.update_of_ne ht]
    exact hn

/-! ## `respondToRequest`: what it can change -/

/-- The nonce map after `respondToRequest` is the one the debug line left. -/
theorem respondToRequest_lastNonce (p : Proxy) (req : DiscoveryRequest) :
    (respondToRequest p req).2.lastNonce = (p.GetLastSentNonce req.TypeUrl).2.lastNonce := by
  unfold respondToRequest
  split
  · rfl
  · rename_i typeURL heq
    obtain rfl := ValidURI_eq_some heq
    simp only [Proxy.GetLastSentNonce_twice]
    repeat' split
    all_goals simp

/-- `respondToRequest` never touches what was last sent. -/
theorem respondToRequest_lastxDSResourcesSent (p : Proxy) (req : DiscoveryRequest) :
    (respondToRequest p req).2.lastxDSResourcesSent = p.lastxDSResourcesSent := by
  unfold respondToRequest
  split
  · simp
  · rename_i typeURL heq
    obtain rfl := ValidURI_eq_some heq
    simp only [Proxy.GetLastSentNonce_twice]
    repeat' split
    all_goals simp

theorem respondToRequest_nonceSet {p : Proxy} {t : String} (h : NonceSet p t)
    (req : DiscoveryRequest) : NonceSet (respondToRequest p req).2 t := by
  have h' := h.getLastSentNonce req.TypeUrl
  obtain ⟨n, hn, hne⟩ := h'
  exact ⟨n, by rw [respondToRequest_lastNonce]; exact hn, hne⟩

/-- Once `t` holds a non-empty nonce, no request changes the last sent version of `t`:
    the reconnection branch needs an empty nonce. -/
theorem respondToRequest_lastSentVersion {p : Proxy} {t : String} (h : NonceSet p t)
    (req : DiscoveryRequest) :
    (respondToRequest p req).2.lastSentVersion t = p.lastSentVersion t := by
  have hq : NonceSet (p.GetLastSentNonce req.TypeUrl).2 t := h.getLastSentNonce _
  unfold respondToRequest
  split
  · simp
  · rename_i typeURL heq
    obtain rfl := ValidURI_eq_some heq
    simp only [Proxy.GetLastSentNonce_twice]
    repeat' split
    all_goals simp only [Proxy.SetSubscribedResources_lastSentVersion,
      Proxy.SetLastAppliedVersion_lastSentVersion, Proxy.SetLastSentVersion_lastSentVersion,
      Proxy.GetLastSentNonce_snd_lastSentVersion]
    -- only the reconnection branch writes the version, and it needs an empty nonce
    rename_i hempty
    by_cases ht : t = req.TypeUrl
    · subst ht
      obtain ⟨n, hn, hne⟩ := hq
      rw [hn] at hempty
      exact absurd hempty hne
    · rw [Function.update_of_ne ht]

/-! ## `SendDiscoveryResponse`: what it changes -/

section send
variable (p : Proxy) (req : DiscoveryRequest) (res : List Resource) (now : Int) (ok : Bool)

theorem SendDiscoveryResponse_lastNonce :
    (SendDiscoveryResponse p req res now ok).2.lastNonce =
      Function.update p.lastNonce req.TypeUrl (some (toString now)) := by
  unfold SendDiscoveryResponse
  cases ok <;> rfl

theorem SendDiscoveryResponse_lastSentVersion :
    (SendDiscoveryResponse p req res now ok).2.lastSentVersion =
      Function.update p.lastSentVersion req.TypeUrl (p.lastSentVersion req.TypeUrl + 1) := by
  unfold SendDiscoveryResponse
  cases ok <;> rfl

/-- Only a successful send records what was sent, and only for its own type. -/
theorem SendDiscoveryResponse_lastxDSResourcesSent :
    (SendDiscoveryResponse p req res now ok).2.lastxDSResourcesSent =
      if ok then Function.update p.lastxDSResourcesSent req.TypeUrl
        (resourcesSent req.TypeUrl (p.subscribedResources req.TypeUrl) res)
      else p.lastxDSResourcesSent := by
  unfold SendDiscoveryResponse
  cases ok <;> rfl

/-- The response carries the nonce the proxy now holds for its type. -/
theorem SendDiscoveryResponse_nonce :
    (SendDiscoveryResponse p req res now ok).2.lastNonce req.TypeUrl =
      some (SendDiscoveryResponse p req res now ok).1.1.Nonce := by
  rw [SendDiscoveryResponse_lastNonce]
  unfold SendDiscoveryResponse
  cases ok <;> simp [Proxy.SetNewNonce]

theorem SendDiscoveryResponse_versionInfo :
    (SendDiscoveryResponse p req res now ok).1.1.VersionInfo =
      toString (p.lastSentVersion req.TypeUrl + 1).toNat := by
  unfold SendDiscoveryResponse
  cases ok <;> rfl

theorem SendDiscoveryResponse_nonceSet :
    NonceSet (SendDiscoveryResponse p req res now ok).2 req.TypeUrl :=
  ⟨toString now, by rw [SendDiscoveryResponse_lastNonce]; simp,
    Proxy.toString_int_ne_empty now⟩

end send

theorem SendDiscoveryResponse_nonceSet_of {p : Proxy} {t : String} (h : NonceSet p t)
    (req : DiscoveryRequest) (res : List Resource) (now : Int) (ok : Bool) :
    NonceSet (SendDiscoveryResponse p req res now ok).2 t := by
  by_cases ht : t = req.TypeUrl
  · subst ht
    exact SendDiscoveryResponse_nonceSet p req res now ok
  · obtain ⟨n, hn, hne⟩ := h
    exact ⟨n, by rw [SendDiscoveryResponse_lastNonce, Function.update_of_ne ht]; exact hn, hne⟩

/-! ## Every event keeps a non-empty nonce -/

theorem step_nonceSet {p : Proxy} {t : String} (h : NonceSet p t) (e : Event) :
    NonceSet (step p e).2 t := by
  cases e with
  | request req => exact respondToRequest_nonceSet h req
  | send req res now ok => exact SendDiscoveryResponse_nonceSet_of h req res now ok

/-! ## Versions of one type move by one -/

/-- The version of an output that is a response of type `t`. -/
def versionOf (t : String) : Output → Option UInt64
  | .response r v _ => if r.TypeUrl = t then some v else none
  | .answer _ => none

theorem SendDiscoveryResponse_typeUrl (p : Proxy) (req : DiscoveryRequest) (res : List Resource)
    (now : Int) (ok : Bool) : (SendDiscoveryResponse p req res now ok).1.1.TypeUrl = req.TypeUrl := by
  unfold SendDiscoveryResponse
  cases ok <;> rfl

/-- Step lemma for the versions, on an event that emits no response of type `t`: the
    version of `t` stays. -/
theorem step_lastSentVersion_of_none {p : Proxy} {t : String} (h : NonceSet p t) (e : Event)
    (hsel : versionOf t (step p e).1 = none) :
    NonceSet (step p e).2 t ∧ (step p e).2.lastSentVersion t = p.lastSentVersion t := by
  cases e with
  | request req =>
    exact ⟨respondToRequest_nonceSet h req, respondToRequest_lastSentVersion h req⟩
  | send req res now ok =>
    have ht : req.TypeUrl ≠ t := by
      intro ht
      simp [step, versionOf, SendDiscoveryResponse_typeUrl, ht] at hsel
    refine ⟨SendDiscoveryResponse_nonceSet_of h req res now ok, ?_⟩
    show (SendDiscoveryResponse p req res now ok).2.lastSentVersion t = _
    rw [SendDiscoveryResponse_lastSentVersion, Function.update_of_ne (Ne.symm ht)]

/-- Step lemma for the versions, on an event that emits a response of type `t` with version
    `b`: `b` is the next version and the proxy remembers it. -/
theorem step_lastSentVersion_of_some {p : Proxy} {t : String} {b : UInt64} (h : NonceSet p t)
    (e : Event) (hsel : versionOf t (step p e).1 = some b) :
    b = p.lastSentVersion t + 1 ∧ NonceSet (step p e).2 t ∧
      (step p e).2.lastSentVersion t = b := by
  cases e with
  | request req => simp [step, versionOf] at hsel
  | send req res now ok =>
    have hb : req.TypeUrl = t ∧ p.lastSentVersion req.TypeUrl + 1 = b := by
      simpa [step, versionOf, SendDiscoveryResponse_typeUrl] using hsel
    obtain ⟨rfl, rfl⟩ := hb
    refine ⟨rfl, SendDiscoveryResponse_nonceSet_of h req res now ok, ?_⟩
    show (SendDiscoveryResponse p req res now ok).2.lastSentVersion req.TypeUrl = _
    simp [SendDiscoveryResponse_lastSentVersion]

/-- Run lemma: from a proxy that holds a nonce for `t`, the responses of type `t` of any run
    carry the versions `v + 1, v + 2, ...` (as `uint64`s) after the version `v` it holds. -/
theorem response_versions_chain (p : Proxy) (t : String) (h : NonceSet p t) (es : List Event) :
    List.IsChain (fun a b => b = a + 1)
      (p.lastSentVersion t :: (run p es).1.filterMap (versionOf t)) := by
  refine Trace.run_isChain step (versionOf t) (fun a b => b = a + 1)
    (fun q a => NonceSet q t ∧ q.lastSentVersion t = a) ?_ ?_ es p _ ⟨h, rfl⟩
  · rintro q e a ⟨hq, rfl⟩ hsel
    exact step_lastSentVersion_of_none hq e hsel
  · rintro q e a b ⟨hq, rfl⟩ hsel
    exact step_lastSentVersion_of_some hq e hsel

/-! ## Requests that are refused, and requests that are answered -/

/-- `parseRequestVersion` fails exactly on a non-empty version that is not a decimal
    `uint64`. -/
theorem parseRequestVersion_eq_none (req : DiscoveryRequest) :
    parseRequestVersion req = none ↔
      req.VersionInfo ≠ "" ∧ GoText.parseUint req.VersionInfo.toList 64 = none := by
  unfold parseRequestVersion
  by_cases hv : req.VersionInfo = ""
  · simp [hv]
  · simp [hv]

/-- The requests `respondToRequest` must refuse without acting on them. -/
def Refused (p : Proxy) (req : DiscoveryRequest) : Prop :=
  ValidURI req.TypeUrl = none ∨ req.TypeUrl = TypeEmptyURI ∨ parseRequestVersion req = none ∨
    req.ErrorDetail.isSome ∨
    (req.ResponseNonce ≠ "" ∧ ∃ n, p.lastNonce req.TypeUrl = some n ∧ n ≠ "" ∧
      n ≠ req.ResponseNonce)

/-- A refused request is not answered and changes nothing but a missing nonce entry. -/
theorem respondToRequest_refuses (p : Proxy) (req : DiscoveryRequest) (h : Refused p req) :
    respondToRequest p req = (false, (p.GetLastSentNonce req.TypeUrl).2) := by
  unfold respondToRequest
  split
  · rfl
  · rename_i typeURL heq
    obtain rfl := ValidURI_eq_some heq
    split
    · rfl
    · rename_i hempty
      split
      · rfl
      · rename_i v hv
        split
        · rfl
        · rename_i hnack
          -- the remaining refusal is the stale nonce
          obtain hurl | hemp | hver | hnk | ⟨hne, n, hn, hn0, hdiff⟩ := h
          · rw [heq] at hurl; cases hurl
          · exact absurd hemp hempty
          · rw [hv] at hver; cases hver
          · exact absurd hnk hnack
          · have hq : (p.GetLastSentNonce req.TypeUrl).2.lastNonce req.TypeUrl = some n := by
              rw [Proxy.GetLastSentNonce_snd_lastNonce]; simp [hn]
            simp only [Proxy.GetLastSentNonce_twice, hq, Option.getD_some, if_neg hne,
              if_neg hn0, if_pos (Ne.symm hdiff)]

/-- A request that passes the checks and carries no nonce is always answered. -/
theorem respondToRequest_empty_nonce (p : Proxy) (req : DiscoveryRequest)
    (hurl : req.TypeUrl ∈ validURIs) (hne : req.TypeUrl ≠ TypeEmptyURI)
    (hv : parseRequestVersion req ≠ none) (hnack : req.ErrorDetail = none)
    (hnonce : req.ResponseNonce = "") : (respondToRequest p req).1 = true := by
  have hvalid : ValidURI req.TypeUrl = some req.TypeUrl := by simp [ValidURI, hurl]
  obtain ⟨v, hv'⟩ := Option.ne_none_iff_exists'.mp hv
  simp [respondToRequest, hvalid, hne, hv', hnack, hnonce]

/-! ## The ACK of a complete response -/

/-- A send of type `t` that went out. -/
def SentOf (t : String) : Event → Prop
  | .send req _ _ ok => req.TypeUrl = t ∧ ok = true
  | .request _ => False

/-- A response that carries a marshalled resource for every subscribed name records exactly
    the subscribed names as sent. -/
theorem resourcesSent_of_cover {t : String} {S : Finset String} {res : List Resource}
    (hwild : IsWildcardTypeURI t = false)
    (hcover : ∀ s ∈ S, ∃ r ∈ res, r.name = s ∧ r.marshals = true) :
    resourcesSent t S res = S := by
  unfold resourcesSent
  rw [hwild, if_neg Bool.false_ne_true]
  ext s
  simp only [Finset.mem_filter, List.mem_toFinset, List.mem_map, List.mem_filter]
  constructor
  · exact fun h => h.2
  · intro hs
    obtain ⟨r, hr, hname, hm⟩ := hcover s hs
    exact ⟨⟨r, ⟨hr, hm⟩, hname⟩, hs⟩

/-- Only a send of type `t` that went out changes what is recorded as sent for `t`. -/
theorem step_lastxDSResourcesSent {p : Proxy} {t : String} (e : Event) (he : ¬ SentOf t e) :
    (step p e).2.lastxDSResourcesSent t = p.lastxDSResourcesSent t := by
  cases e with
  | request req =>
    show (respondToRequest p req).2.lastxDSResourcesSent t = _
    rw [respondToRequest_lastxDSResourcesSent]
  | send req res now ok =>
    show (SendDiscoveryResponse p req res now ok).2.lastxDSResourcesSent t = _
    rw [SendDiscoveryResponse_lastxDSResourcesSent]
    cases ok with
    | false => rfl
    | true =>
      have ht : t ≠ req.TypeUrl := fun ht => he ⟨ht.symm, rfl⟩
      rw [if_pos rfl, Function.update_of_ne ht]

/-- The decision on an ACK: when `t` holds a nonce and the names last sent for `t` are the
    names the request asks for, a request with a nonce is not answered, whether its nonce is
    stale or current. -/
theorem respondToRequest_ack {q : Proxy} {ack : DiscoveryRequest} (hq : NonceSet q ack.TypeUrl)
    (hnonce : ack.ResponseNonce ≠ "")
    (hnames : getRequestedResourceNamesSet ack = q.lastxDSResourcesSent ack.TypeUrl) :
    (respondToRequest q ack).1 = false := by
  obtain ⟨n, hn, hne⟩ := hq
  have hget : q.GetLastSentNonce ack.TypeUrl = (n, q) := by
    simp [Proxy.GetLastSentNonce, hn]
  unfold respondToRequest
  simp only [hget]
  split
  · rfl
  · rename_i typeURL heq
    obtain rfl := ValidURI_eq_some heq
    repeat' split
    all_goals first | rfl | simp_all

/-- Run lemma for the ACK: from the response on, events that send nothing of type `t`
    keep the nonce of `t` set and the names recorded as sent. -/
theorem run_ack_invariant {p : Proxy} {t : String} {S : Finset String} (h : NonceSet p t)
    (hS : p.lastxDSResourcesSent t = S) (es : List Event) (hes : ∀ e ∈ es, ¬ SentOf t e) :
    NonceSet (run p es).2 t ∧ (run p es).2.lastxDSResourcesSent t = S :=
  Trace.run_invariant step (fun q => NonceSet q t ∧ q.lastxDSResourcesSent t = S)
    (fun e => ¬ SentOf t e)
    (fun _ e he hq => ⟨step_nonceSet hq.1 e, (step_lastxDSResourcesSent e he).trans hq.2⟩)
    es p hes ⟨h, hS⟩

/-- The nonce of a response is never empty. -/
theorem SendDiscoveryResponse_nonce_ne_empty (p : Proxy) (req : DiscoveryRequest)
    (res : List Resource) (now : Int) (ok : Bool) :
    (SendDiscoveryResponse p req res now ok).1.1.Nonce ≠ "" := by
  obtain ⟨n, hn, hne⟩ := SendDiscoveryResponse_nonceSet p req res now ok
  rw [SendDiscoveryResponse_nonce] at hn
  rw [Option.some.inj hn]
  exact hne

/-- The ACK of a response `R` of a non-wildcard type that carried a marshalled resource for
    every name the proxy was subscribed to, asking for those names again, is not answered
    as long as no later response of that type went out. -/
theorem ack_not_answered (p : Proxy) (es₁ : List Event) (req : DiscoveryRequest)
    (res : List Resource) (now : Int) (es₂ : List Event) (ack : DiscoveryRequest)
    (hwild : IsWildcardTypeURI req.TypeUrl = false)
    (hcover : ∀ s ∈ (run p es₁).2.subscribedResources req.TypeUrl,
      ∃ r ∈ res, r.name = s ∧ r.marshals = true)
    (hlater : ∀ e ∈ es₂, ¬ SentOf req.TypeUrl e)
    (hack : ack.TypeUrl = req.TypeUrl)
    (hnonce : ack.ResponseNonce = (SendDiscoveryResponse (run p es₁).2 req res now true).1.1.Nonce)
    (hnames : getRequestedResourceNamesSet ack = (run p es₁).2.subscribedResources req.TypeUrl) :
    (respondToRequest (run p (es₁ ++ Event.send req res now true :: es₂)).2 ack).1 = false := by
  set p₁ := (run p es₁).2
  set S := p₁.subscribedResources req.TypeUrl
  have hrun : (run p (es₁ ++ Event.send req res now true :: es₂)).2 =
      (run (SendDiscoveryResponse p₁ req res now true).2 es₂).2 := by
    simp only [run, Trace.run_append, Trace.run_cons]
    rfl
  -- right after `R`: the nonce is set and exactly the subscribed names are recorded
  have hsent : (SendDiscoveryResponse p₁ req res now true).2.lastxDSResourcesSent
      req.TypeUrl = S := by
    rw [SendDiscoveryResponse_lastxDSResourcesSent, if_pos rfl, Function.update_self]
    exact resourcesSent_of_cover hwild hcover
  obtain ⟨hset, hS⟩ := run_ack_invariant (SendDiscoveryResponse_nonceSet p₁ req res now true)
    hsent es₂ hlater
  rw [hrun]
  rw [← hack] at hset hS
  refine respondToRequest_ack hset ?_ (hnames.trans hS.symm)
  rw [hnonce]
  exact SendDiscoveryResponse_nonce_ne_empty _ _ _ _ _

/-! ## The stream contract -/

/-- Every response an event emits carries the decimal text of its version and the nonce its
    type now holds. -/
theorem step_response {p : Proxy} {e : Event} {r : DiscoveryResponse} {v : UInt64} {sent : Bool}
    (h : (step p e).1 = .response r v sent) :
    r.VersionInfo = toString v.toNat ∧ (step p e).2.lastNonce r.TypeUrl = some r.Nonce := by
  cases e with
  | request req => cases h
  | send req res now ok =>
    simp only [step, Output.response.injEq] at h
    obtain ⟨rfl, rfl, -⟩ := h
    rw [SendDiscoveryResponse_typeUrl]
    exact ⟨SendDiscoveryResponse_versionInfo p req res now ok,
      SendDiscoveryResponse_nonce p req res now ok⟩

/-- The ADS stream contract, over every interleaving of requests and sends:
    (a) after a response of type `t` is built, the responses of type `t` that follow carry
    the next `uint64` versions, each with its decimal text as `VersionInfo` and with the nonce
    `t` then holds; (b) the refused requests are answered `false` and change nothing but a
    missing nonce entry; (c) a request that passes those checks with an empty nonce is
    answered; (d) the ACK of a response that covered every subscribed name of a
    non-wildcard type is not answered while no later response of that type went out. -/
theorem ads_stream_contract :
    (∀ (p : Proxy) (es₁ : List Event) (req : DiscoveryRequest) (res : List Resource) (now : Int)
        (ok : Bool) (es₂ : List Event),
      let q := step (run p es₁).2 (.send req res now ok)
      List.IsChain (fun a b => b = a + 1)
        (q.2.lastSentVersion req.TypeUrl :: (run q.2 es₂).1.filterMap (versionOf req.TypeUrl))) ∧
    (∀ (p : Proxy) (e : Event) (r : DiscoveryResponse) (v : UInt64) (sent : Bool),
      (step p e).1 = .response r v sent →
        r.VersionInfo = toString v.toNat ∧ (step p e).2.lastNonce r.TypeUrl = some r.Nonce) ∧
    (∀ (p : Proxy) (req : DiscoveryRequest),
      Refused p req → respondToRequest p req = (false, (p.GetLastSentNonce req.TypeUrl).2)) ∧
    (∀ (p : Proxy) (req : DiscoveryRequest),
      req.TypeUrl ∈ validURIs → req.TypeUrl ≠ TypeEmptyURI → parseRequestVersion req ≠ none →
        req.ErrorDetail = none → req.ResponseNonce = "" → (respondToRequest p req).1 = true) ∧
    (∀ (p : Proxy) (es₁ : List Event) (req : DiscoveryRequest) (res : List Resource) (now : Int)
        (es₂ : List Event) (ack : DiscoveryRequest),
      IsWildcardTypeURI req.TypeUrl = false →
      (∀ s ∈ (run p es₁).2.subscribedResources req.TypeUrl,
        ∃ r ∈ res, r.name = s ∧ r.marshals = true) →
      (∀ e ∈ es₂, ¬ SentOf req.TypeUrl e) →
      ack.TypeUrl = req.TypeUrl →
      ack.ResponseNonce = (SendDiscoveryResponse (run p es₁).2 req res now true).1.1.Nonce →
      getRequestedResourceNamesSet ack = (run p es₁).2.subscribedResources req.TypeUrl →
      (respondToRequest (run p (es₁ ++ Event.send req res now true :: es₂)).2 ack).1 = false) := by
  refine ⟨?_, fun _ _ _ _ _ h => step_response h, respondToRequest_refuses,
    respondToRequest_empty_nonce, ?_⟩
  · intro p es₁ req res now ok es₂
    have hset : NonceSet (step (run p es₁).2 (.send req res now ok)).2 req.TypeUrl :=
      SendDiscoveryResponse_nonceSet _ req res now ok
    exact response_versions_chain _ req.TypeUrl hset es₂
  · intro p es₁ req res now es₂ ack hwild hcover hlater hack hnonce hnames
    exact ack_not_answered p es₁ req res now es₂ ack hwild hcover hlater hack hnonce hnames

/-- A first RDS request for one route configuration. -/
def rdsRequest : DiscoveryRequest :=
  { TypeUrl := TypeRDS, VersionInfo := "", ResponseNonce := "", ResourceNames := ["rds-inbound"],
    ErrorDetail := none }

/-- Its ACK, carrying the nonce of the response built at clock reading 7. -/
def rdsAck : DiscoveryRequest :=
  { TypeUrl := TypeRDS, VersionInfo := "1", ResponseNonce := "7", ResourceNames := ["rds-inbound"],
    ErrorDetail := none }

/-- The ACK clause at a first RDS request answered with its one route configuration. -/
theorem ads_stream_contract_rds_ack :
    IsWildcardTypeURI TypeRDS = false ∧
    (respondToRequest (run NewProxy ([.request rdsRequest] ++
        [.send rdsRequest [{ name := "rds-inbound", marshals := true }] 7 true])).2 rdsAck).1 =
      false :=
  ⟨by decide, ads_stream_contract.2.2.2.2 NewProxy [.request rdsRequest] rdsRequest
    [{ name := "rds-inbound", marshals := true }] 7 [] rdsAck (by decide) (by decide)
    (by simp) rfl (by decide) (by decide)⟩

/-- The reconnection of a proxy that reports version `2^64 - 2` for RDS. -/
def wrapRequest : DiscoveryRequest :=
  { TypeUrl := TypeRDS, VersionInfo := "18446744073709551614", ResponseNonce := "1",
    ResourceNames := [], ErrorDetail := none }

/-- A first request for a type URL the server does not know. -/
def unknownTypeRequest : DiscoveryRequest :=
  { TypeUrl := "foo", VersionInfo := "", ResponseNonce := "", ResourceNames := [],
    ErrorDetail := none }

/-- The `VersionInfo` of an output that is a response. -/
def versionInfoOf : Output → Option String
  | .response r _ _ => some r.VersionInfo
  | .answer _ => none

/-- Versions do not grow without bound, and not every request is answered. After a
    reconnection that takes over version `2^64 - 2`, the second of two responses carries
    `VersionInfo` `"0"`, not larger than the first's; and a request of an unknown type with an
    empty nonce is refused. -/
theorem ads_version_wraps :
    (run NewProxy [.request wrapRequest, .send wrapRequest [] 5 true,
        .send wrapRequest [] 6 true]).1.filterMap (versionOf TypeRDS) =
      [18446744073709551615, 0] ∧
    (run NewProxy [.request wrapRequest, .send wrapRequest [] 5 true,
        .send wrapRequest [] 6 true]).1.filterMap versionInfoOf =
      ["18446744073709551615", "0"] ∧
    (respondToRequest NewProxy unknownTypeRequest).1 = false := by
  decide

end OsmEdge.Ads
