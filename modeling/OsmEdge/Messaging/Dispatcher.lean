import OsmEdge.Lib.GoTimer
import OsmEdge.Lib.Sched
import Mathlib.Data.List.Basic

/-
  The proxy update dispatcher of `pkg/messaging/broker.go` (`runProxyUpdateDispatcher`): it
  coalesces the broadcast proxy updates that `processEvent` hands it on `proxyUpdateCh` and
  publishes the last one when the sliding window (2 s, moved by every event) or the max window
  (10 s from the first event) runs out. Both windows are Go timers, first armed for a decade
  (`noTimeout`) and re-armed with `if !t.Stop() { <-t.C }; t.Reset(d)`.

  The model runs the loop one statement at a time: at the select the dispatcher takes an
  event, the value of a timer, or the stop signal; the statements of the case it took are then
  a list of instructions run one per step (`code`). The runtime fires an armed timer between
  any two steps. A timer armed with `noTimeout` never fires (`GoTimer`). What is published and
  received is kept in `log`.

  Proved:
  * `dispatcher_invariant`: in every state a run reaches, each timer is what the next statement
    that touches it expects (`Expect`), a publication ahead has both timers idle once their
    `noTimeout` reset is behind, and the log is made of batches.
  * `dispatcher_contract`: a drain never blocks; a publication happens only while a dispatch
    is pending, publishes the event received last and leaves nothing pending, a zero count and
    both timers idle; and every publication in the log comes right after a receipt of the
    event it publishes, so there are no more publications than events, and between two
    publications an event was received.
-/

namespace OsmEdge.Messaging

open GoTimer

/-- The two timers of the dispatcher. -/
inductive Which
  | sliding
  | max
  deriving DecidableEq, Repr

/-- The other timer. -/
def Which.other : Which → Which
  | .sliding => .max
  | .max => .sliding

@[simp] theorem Which.other_sliding : Which.sliding.other = .max := rfl
@[simp] theorem Which.other_max : Which.max.other = .sliding := rfl

/-- A statement of a case of the select. -/
inductive Instr
  /-- `if !t.Stop() {`: on `false` the drain comes next. -/
  | stop (t : Which)
  /-- `<-t.C }`. -/
  | drain (t : Which)
  /-- `t.Reset(d)`, with a window (`true`) or `noTimeout`. -/
  | reset (t : Which) (window : Bool)
  /-- `dispatchPending = true; batchCount++`. -/
  | pend
  /-- `batchCount++`. -/
  | count
  /-- `b.proxyUpdatePubSub.Pub(event.msg, event.topic)`, then `dispatchPending = false` and
      `batchCount = 0`. -/
  | publish
  deriving DecidableEq, Repr

/-- The event case when no dispatch is pending: both timers are set to their windows. -/
def onFirstEvent : List Instr :=
  [.stop .sliding, .reset .sliding true, .stop .max, .reset .max true, .pend]

/-- The event case when a dispatch is pending: the sliding window moves. -/
def onNextEvent : List Instr :=
  [.stop .sliding, .reset .sliding true, .count]

/-- The case of the timer `t`, whose value the select has read: `t` and then the other timer
    are set to `noTimeout`, and the event is published. -/
def onExpired (t : Which) : List Instr :=
  [.reset t false, .stop t.other, .reset t.other false, .publish]

/-- What the dispatcher receives and publishes; a publication carries `event`, whose zero value
    is `none`. -/
inductive Obs (α : Type)
  | recv (e : α)
  | pub (e : Option α)
  deriving DecidableEq, Repr

/-- The dispatcher goroutine with its two timers (`slidingTimer` and `maxTimer`). -/
structure Dispatcher (α : Type) where
  timers : Which → Timer
  dispatchPending : Bool
  batchCount : Nat
  event : Option α
  /-- The statements left of the case being run; empty at the select. -/
  code : List Instr
  returned : Bool
  log : List (Obs α)

/-- What the scheduler runs next. -/
inductive Action (α : Type)
  /-- The dispatcher runs its next statement. -/
  | next
  /-- The select takes an event from `proxyUpdateCh`. -/
  | receive (e : α)
  /-- The select takes the value of the timer's channel. -/
  | expire (t : Which)
  /-- The select takes `stopCh`. -/
  | stop
  /-- The runtime fires the timer. -/
  | fire (t : Which)

namespace Dispatcher

variable {α : Type}

/-- The state the loop starts in: both timers armed with `noTimeout`. -/
def init : Dispatcher α :=
  { timers := fun _ => Timer.newIdle, dispatchPending := false, batchCount := 0, event := none
    code := [], returned := false, log := [] }

/-- One statement, with the statements after it. -/
def exec (d : Dispatcher α) : Instr → List Instr → Option (Dispatcher α)
  | .stop t, rest =>
    let r := (d.timers t).Stop
    if r.1 then some { d with timers := Function.update d.timers t r.2, code := rest }
    else some { d with code := .drain t :: rest }
  | .drain t, rest =>
    ((d.timers t).receive).map fun tm =>
      { d with timers := Function.update d.timers t tm, code := rest }
  | .reset t window, rest =>
    some { d with timers := Function.update d.timers t ((d.timers t).Reset window), code := rest }
  | .pend, rest =>
    some { d with dispatchPending := true, batchCount := d.batchCount + 1, code := rest }
  | .count, rest => some { d with batchCount := d.batchCount + 1, code := rest }
  | .publish, rest =>
    some { d with log := d.log ++ [.pub d.event], dispatchPending := false, batchCount := 0
                  code := rest }

/-- Whether the dispatcher waits at its select. -/
def AtSelect (d : Dispatcher α) : Prop := d.code = [] ∧ d.returned = false

instance (d : Dispatcher α) : Decidable d.AtSelect := inferInstanceAs (Decidable (_ ∧ _))

/-- One step of the goroutine, or of the runtime, that the action names. -/
def step (d : Dispatcher α) : Action α → Option (Dispatcher α)
  | .next =>
    match d.code with
    | [] => none
    | i :: rest => d.exec i rest
  | .receive e =>
    if d.AtSelect then
      some { d with event := some e, log := d.log ++ [.recv e]
                    code := if d.dispatchPending then onNextEvent else onFirstEvent }
    else none
  | .expire t =>
    if d.AtSelect then
      ((d.timers t).receive).map fun tm =>
        { d with timers := Function.update d.timers t tm, code := onExpired t }
    else none
  | .stop => if d.AtSelect then some { d with returned := true } else none
  | .fire t => ((d.timers t).fire).map fun tm => { d with timers := Function.update d.timers t tm }

end Dispatcher

/-! ## The statements a case has left -/

/-- Whether a statement uses the timer `t`. -/
def Instr.touches : Instr → Which → Bool
  | .stop u, t => u == t
  | .drain u, t => u == t
  | .reset u _, t => u == t
  | _, _ => false

section touches

variable (u t : Which)

@[simp] theorem Instr.touches_stop : (Instr.stop u).touches t = (u == t) := rfl
@[simp] theorem Instr.touches_drain : (Instr.drain u).touches t = (u == t) := rfl
@[simp] theorem Instr.touches_reset (w : Bool) : (Instr.reset u w).touches t = (u == t) := rfl
@[simp] theorem Instr.touches_pend : Instr.pend.touches t = false := rfl
@[simp] theorem Instr.touches_count : Instr.count.touches t = false := rfl
@[simp] theorem Instr.touches_publish : Instr.publish.touches t = false := rfl

end touches

/-- The statements left of a case at any point of it: the tails of the cases, and the drains
    that a `Stop` answering `false` puts in front of them. -/
def shapes : List (List Instr) :=
  let tails := [onFirstEvent, onNextEvent, onExpired .sliding, onExpired .max].flatMap List.tails
  tails ++ tails.filterMap fun c =>
    match c with
    | .stop t :: rest => some (.drain t :: rest)
    | _ => none

/-- The next statement that uses `t` is a `Reset`. -/
def nextTouchIsReset (t : Which) (rest : List Instr) : Bool :=
  match rest.find? (·.touches t) with
  | some (.reset _ _) => true
  | _ => false

/-- What holds of a case's statements at a point: the statements after the next one are a
    point too; a `Stop` or a drain of `t` is followed, before any other use of `t`, by its
    `Reset`; a `Reset` of `t` is its last use, and one with a window has no publication after
    it; and a publication ends its case. -/
def closedAt : List Instr → Bool
  | [] => true
  | i :: rest => decide (rest ∈ shapes) &&
    match i with
    | .stop t => decide (.drain t :: rest ∈ shapes) && nextTouchIsReset t rest
    | .drain t => nextTouchIsReset t rest
    | .reset t w => (rest.find? (·.touches t)).isNone && !(w && decide (.publish ∈ rest))
    | .publish => rest.isEmpty
    | _ => true

theorem closedAt_shapes : ∀ c ∈ shapes, closedAt c = true := by decide

section shape

variable {t : Which} {rest : List Instr}

theorem shapes_tail {i : Instr} (h : i :: rest ∈ shapes) : rest ∈ shapes := by
  have hc := closedAt_shapes _ h
  simp only [closedAt, Bool.and_eq_true, decide_eq_true_eq] at hc
  exact hc.1

theorem shapes_stop (h : .stop t :: rest ∈ shapes) :
    .drain t :: rest ∈ shapes ∧ nextTouchIsReset t rest = true := by
  have hc : (decide (rest ∈ shapes) &&
      (decide (.drain t :: rest ∈ shapes) && nextTouchIsReset t rest)) = true :=
    closedAt_shapes _ h
  simp only [Bool.and_eq_true, decide_eq_true_eq] at hc
  exact hc.2

theorem shapes_drain (h : .drain t :: rest ∈ shapes) : nextTouchIsReset t rest = true := by
  have hc : (decide (rest ∈ shapes) && nextTouchIsReset t rest) = true := closedAt_shapes _ h
  simp only [Bool.and_eq_true] at hc
  exact hc.2

theorem shapes_reset {w : Bool} (h : .reset t w :: rest ∈ shapes) :
    rest.find? (·.touches t) = none ∧ (w = true → .publish ∉ rest) := by
  have hc : (decide (rest ∈ shapes) &&
      ((rest.find? (·.touches t)).isNone && !(w && decide (.publish ∈ rest)))) = true :=
    closedAt_shapes _ h
  simp only [Bool.and_eq_true, Option.isNone_iff_eq_none, Bool.not_eq_true',
    Bool.and_eq_false_iff, decide_eq_false_iff_not] at hc
  obtain ⟨-, hnone, hw⟩ := hc
  refine ⟨hnone, fun hw' => ?_⟩
  rcases hw with hw | hw
  · rw [hw'] at hw; cases hw
  · exact hw

theorem shapes_publish (h : .publish :: rest ∈ shapes) : rest = [] := by
  have hc : (decide (rest ∈ shapes) && rest.isEmpty) = true := closedAt_shapes _ h
  simp only [Bool.and_eq_true, List.isEmpty_iff] at hc
  exact hc.2

/-- The next use of `t` is a `Reset` of `t`. -/
theorem find?_of_nextTouchIsReset (h : nextTouchIsReset t rest = true) :
    ∃ w, rest.find? (·.touches t) = some (.reset t w) := by
  unfold nextTouchIsReset at h
  split at h
  · rename_i u w hfind
    have htouch := List.find?_some hfind
    simp only [Instr.touches_reset, beq_iff_eq] at htouch
    exact ⟨w, htouch ▸ hfind⟩
  · cases h

/-- A `Reset` of `t` lies ahead when it is the next use of `t`. -/
theorem exists_reset_of_nextTouchIsReset (h : nextTouchIsReset t rest = true) :
    ∃ w, .reset t w ∈ rest := by
  obtain ⟨w, hfind⟩ := find?_of_nextTouchIsReset h
  exact ⟨w, List.mem_of_find?_eq_some hfind⟩

end shape

/-! ## The invariant -/

/-- What the next statement that uses the timer `t` needs of it: a drain, its value in `C`; a
    `Reset`, `C` drained; a `Stop`, or the select when no statement uses it, a settled
    timer. -/
def Expect (t : Which) (code : List Instr) (tm : Timer) : Prop :=
  match code.find? (·.touches t) with
  | some (.drain _) => tm.status = .expired ∧ tm.full = true
  | some (.reset _ _) => tm.Drained
  | _ => tm.Settled

section expect

variable {t : Which} {rest : List Instr} {tm : Timer}

theorem Expect_def : Expect t rest tm = match rest.find? (·.touches t) with
    | some (.drain _) => tm.status = .expired ∧ tm.full = true
    | some (.reset _ _) => tm.Drained
    | _ => tm.Settled :=
  rfl

theorem Expect_cons_of_not_touches {i : Instr} (h : i.touches t = false) :
    Expect t (i :: rest) tm ↔ Expect t rest tm := by
  rw [Expect_def, Expect_def, List.find?_cons_of_neg (by simp [h])]

theorem Expect_stop_self : Expect t (.stop t :: rest) tm ↔ tm.Settled := by
  rw [Expect_def, List.find?_cons_of_pos (by simp)]

theorem Expect_drain_self :
    Expect t (.drain t :: rest) tm ↔ tm.status = .expired ∧ tm.full = true := by
  rw [Expect_def, List.find?_cons_of_pos (by simp)]

theorem Expect_reset_self {w : Bool} : Expect t (.reset t w :: rest) tm ↔ tm.Drained := by
  rw [Expect_def, List.find?_cons_of_pos (by simp)]

theorem Expect_of_nextTouchIsReset (h : nextTouchIsReset t rest = true) :
    Expect t rest tm ↔ tm.Drained := by
  obtain ⟨w, hfind⟩ := find?_of_nextTouchIsReset h
  rw [Expect_def, hfind]

theorem Expect_of_find?_eq_none (h : rest.find? (·.touches t) = none) :
    Expect t rest tm ↔ tm.Settled := by
  rw [Expect_def, h]

end expect

/-- Whether an observation is a publication. -/
def Obs.isPub {α : Type} : Obs α → Bool
  | .pub _ => true
  | .recv _ => false

/-- Whether an observation is a receipt. -/
def Obs.isRecv {α : Type} : Obs α → Bool
  | .recv _ => true
  | .pub _ => false

/-- Every publication in the log comes right after the receipt of the event it publishes. -/
def Batched {α : Type} (log : List (Obs α)) : Prop :=
  ∀ l₁ e l₂, log = l₁ ++ .pub e :: l₂ → ∃ l₀ a, l₁ = l₀ ++ [.recv a] ∧ e = some a

section batched

variable {α : Type} {log : List (Obs α)}

/-- Splitting off the last observation of a log with a publication somewhere in it. -/
theorem eq_of_append_singleton {x : Obs α} {l₁ l₂ : List (Obs α)} {e : Option α}
    (h : log ++ [x] = l₁ ++ .pub e :: l₂) :
    (l₂ = [] ∧ l₁ = log ∧ x = .pub e) ∨ ∃ l₂', l₂ = l₂' ++ [x] ∧ log = l₁ ++ .pub e :: l₂' := by
  rcases List.eq_nil_or_concat l₂ with rfl | ⟨l₂', y, rfl⟩
  · have h' := List.append_inj' h rfl
    simp only [List.cons.injEq, and_true] at h'
    exact .inl ⟨rfl, h'.1.symm, h'.2⟩
  · have h₂ : log ++ [x] = (l₁ ++ .pub e :: l₂') ++ [y] := by rw [h]; simp
    have h' := List.append_inj' h₂ rfl
    simp only [List.cons.injEq, and_true] at h'
    exact .inr ⟨l₂', by rw [h'.2, List.concat_eq_append], h'.1⟩

/-- A receipt at the end keeps a log batched. -/
theorem Batched.append_recv (h : Batched log) (a : α) : Batched (log ++ [.recv a]) := by
  intro l₁ e l₂ heq
  rcases eq_of_append_singleton heq with ⟨-, -, hx⟩ | ⟨l₂', -, hlog⟩
  · cases hx
  · exact h l₁ e l₂' hlog

/-- A publication of the event received last keeps a log batched. -/
theorem Batched.append_pub {a : α} (h : Batched log) (hlast : log.getLast? = some (.recv a)) :
    Batched (log ++ [.pub (some a)]) := by
  intro l₁ e l₂ heq
  rcases eq_of_append_singleton heq with ⟨-, rfl, hx⟩ | ⟨l₂', -, hlog⟩
  · obtain ⟨l₀, hl₀⟩ := List.getLast?_eq_some_iff.mp hlast
    cases hx
    exact ⟨l₀, a, hl₀, rfl⟩
  · exact h l₁ e l₂' hlog

/-- Between two publications of a batched log an event was received. -/
theorem Batched.recv_between (h : Batched log) {l₁ l₂ l₃ : List (Obs α)} {e₁ e₂ : Option α}
    (hlog : log = l₁ ++ .pub e₁ :: (l₂ ++ .pub e₂ :: l₃)) : ∃ a, .recv a ∈ l₂ := by
  obtain ⟨l₀, a, hl₀, -⟩ := h (l₁ ++ .pub e₁ :: l₂) e₂ l₃ (by simp [hlog])
  rcases List.eq_nil_or_concat l₂ with rfl | ⟨l₂', y, rfl⟩
  · -- the second publication would follow the first one directly
    have h' := List.append_inj' hl₀ rfl
    simp at h'
  · have h₂ : (l₁ ++ .pub e₁ :: l₂') ++ [y] = l₀ ++ [.recv a] := by rw [← hl₀]; simp
    have h' := List.append_inj' h₂ rfl
    simp only [List.cons.injEq, and_true] at h'
    exact ⟨a, by simp [h'.2]⟩

end batched

/-- The invariant of the dispatcher loop. -/
structure Inv {α : Type} (d : Dispatcher α) : Prop where
  shape : d.code ∈ shapes
  expect : ∀ t, Expect t d.code (d.timers t)
  returned_code : d.returned = true → d.code = []
  pending_or_first : d.dispatchPending = false → Instr.pend ∈ d.code ∨ d.code = []
  idle_at_rest : d.dispatchPending = false → Instr.pend ∉ d.code →
    ∀ t, (d.timers t).status = .idle
  idle_before_publish : Instr.publish ∈ d.code →
    ∀ t, (∀ w, Instr.reset t w ∉ d.code) → (d.timers t).status = .idle
  pending_of_publish : Instr.publish ∈ d.code → d.dispatchPending = true
  last_received : d.dispatchPending = true ∨ Instr.pend ∈ d.code →
    ∃ a, d.log.getLast? = some (.recv a) ∧ d.event = some a
  counted : (d.log.filter Obs.isPub).length +
      (if d.dispatchPending = true ∨ Instr.pend ∈ d.code then 1 else 0) ≤
    (d.log.filter Obs.isRecv).length
  batched : Batched d.log

/-! ## What every step keeps -/

theorem Which.eq_or_eq_other (u t : Which) : u = t ∨ u = t.other := by
  cases u <;> cases t <;> simp

theorem Which.other_ne (t : Which) : t.other ≠ t := by
  cases t <;> simp

section steps

variable {α : Type} {d : Dispatcher α}

/-- A fired timer is what its next use expects: firing needs an armed timer, which neither a
    drain nor a `Reset` ahead allows. -/
theorem Expect_fire {t : Which} {c : List Instr} {tm tm' : Timer} (h : Expect t c tm)
    (hfire : tm.fire = some tm') : Expect t c tm' := by
  obtain ⟨harmed, rfl⟩ := Timer.fire_eq_some hfire
  rw [Expect_def] at h ⊢
  split at h
  · rw [harmed] at h; cases h.1
  · obtain ⟨hs | hs, -⟩ := h <;> rw [harmed] at hs <;> cases hs
  · exact .inr ⟨rfl, rfl⟩

/-- The frame of the steps that move only the timers and the statements left: the rest of
    the invariant carries over when the next statement is neither `pend` nor a publication. -/
theorem Inv.of_timers (hinv : Inv d) {T : Which → Timer} {c : List Instr} (hshape : c ∈ shapes)
    (hexpect : ∀ t, Expect t c (T t)) (hnil : d.code = [] → c = [])
    (hpend : Instr.pend ∈ c ↔ Instr.pend ∈ d.code)
    (hpub : Instr.publish ∈ c ↔ Instr.publish ∈ d.code)
    (hidle : d.dispatchPending = false → Instr.pend ∉ c → ∀ t, (T t).status = .idle)
    (hidlePub : Instr.publish ∈ c → ∀ t, (∀ w, Instr.reset t w ∉ c) → (T t).status = .idle) :
    Inv { d with timers := T, code := c } where
  shape := hshape
  expect := hexpect
  returned_code h := hnil (hinv.returned_code h)
  pending_or_first h := (hinv.pending_or_first h).imp hpend.2 hnil
  idle_at_rest := hidle
  idle_before_publish := hidlePub
  pending_of_publish h := hinv.pending_of_publish (hpub.1 h)
  last_received h := hinv.last_received (h.imp_right hpend.1)
  counted := by
    have hc := hinv.counted
    simp only [hpend] at hc ⊢
    exact hc
  batched := hinv.batched

/-- The statements after one that is not `pend` hold `pend` when the case does, given that
    something was pending or `pend` lies ahead. -/
theorem pend_mem_of_not_pending (hinv : Inv d) {i : Instr} {rest : List Instr}
    (hcode : d.code = i :: rest) (hi : i ≠ .pend) (hp : d.dispatchPending = false) :
    Instr.pend ∈ rest := by
  rcases hinv.pending_or_first hp with h | h
  · rw [hcode] at h
    exact (List.mem_cons.1 h).resolve_left (Ne.symm hi)
  · rw [hcode] at h; cases h

theorem Inv.fire (hinv : Inv d) {t : Which} {tm : Timer} (hfire : (d.timers t).fire = some tm) :
    Inv { d with timers := Function.update d.timers t tm } := by
  have harmed := (Timer.fire_eq_some hfire).1
  -- an idle timer would not have fired
  have hnotIdle : (d.timers t).status ≠ .idle := by rw [harmed]; simp
  refine hinv.of_timers hinv.shape (fun u => ?_) id Iff.rfl Iff.rfl
    (fun hp hpend u => ?_) (fun hpub u hres => ?_)
  · rcases eq_or_ne u t with rfl | hu
    · simpa using Expect_fire (hinv.expect u) hfire
    · simpa [Function.update_of_ne hu] using hinv.expect u
  · rcases eq_or_ne u t with rfl | hu
    · exact absurd (hinv.idle_at_rest hp hpend u) hnotIdle
    · simpa [Function.update_of_ne hu] using hinv.idle_at_rest hp hpend u
  · rcases eq_or_ne u t with rfl | hu
    · exact absurd (hinv.idle_before_publish hpub u hres) hnotIdle
    · simpa [Function.update_of_ne hu] using hinv.idle_before_publish hpub u hres

section exec

variable {t : Which} {rest : List Instr}

/-- The statements left after one that uses `t` only: `pend` and publications stay where they
    were. -/
theorem mem_cons_iff_of_ne {i j : Instr} (hj : j ≠ i) : j ∈ i :: rest ↔ j ∈ rest := by
  simp [hj]

/-- A statement that uses the timer `t` alone keeps the invariant when it leaves `t` as the
    statements after it expect, and idle when a publication is ahead with no `Reset` of `t`
    left. -/
theorem Inv.of_use (hinv : Inv d) {i : Instr} (hcode : d.code = i :: rest)
    (hi : ∀ u, u ≠ t → i.touches u = false) (hipend : i ≠ .pend) (hipub : i ≠ .publish)
    (hires : ∀ u w, i = .reset u w → u = t) {tm : Timer} (hexpect : Expect t rest tm)
    (hidle : Instr.publish ∈ rest → (∀ w, Instr.reset t w ∉ rest) → tm.status = .idle) :
    Inv { d with timers := Function.update d.timers t tm, code := rest } := by
  have hpend : Instr.pend ∈ d.code ↔ Instr.pend ∈ rest := hcode ▸ mem_cons_iff_of_ne hipend.symm
  have hpub : Instr.publish ∈ d.code ↔ Instr.publish ∈ rest :=
    hcode ▸ mem_cons_iff_of_ne hipub.symm
  refine hinv.of_timers (shapes_tail (hcode ▸ hinv.shape)) (fun u => ?_) (by simp [hcode])
    hpend.symm hpub.symm
    (fun hp hp' => (hp' (pend_mem_of_not_pending hinv hcode hipend hp)).elim) (fun hp u hu => ?_)
  · rcases eq_or_ne u t with rfl | hu
    · simpa using hexpect
    · simpa [Function.update_of_ne hu] using
        (Expect_cons_of_not_touches (hi u hu)).1 (hcode ▸ hinv.expect u)
  · rcases eq_or_ne u t with rfl | hut
    · simpa using hidle hp hu
    · -- no `Reset` of the other timer is ahead either, so it was idle already
      have hnone : ∀ w, Instr.reset u w ∉ d.code := fun w hw => by
        rw [hcode] at hw
        rcases List.mem_cons.1 hw with hw | hw
        · exact hut (hires u w hw.symm)
        · exact hu w hw
      simpa [Function.update_of_ne hut] using hinv.idle_before_publish (hpub.2 hp) u hnone

/-- `if !t.Stop() {`: `Stop` answers `true` and the timer waits for its `Reset`, or answers
    `false` on a timer whose value is there to drain. -/
theorem Inv.exec_stop (hinv : Inv d) (hcode : d.code = .stop t :: rest) {d' : Dispatcher α}
    (h : d.exec (.stop t) rest = some d') : Inv d' := by
  have hshape := hcode ▸ hinv.shape
  obtain ⟨hdrain, hnext⟩ := shapes_stop hshape
  obtain ⟨w, hw⟩ := exists_reset_of_nextTouchIsReset hnext
  have hsettled : (d.timers t).Settled := Expect_stop_self.1 (hcode ▸ hinv.expect t)
  simp only [Dispatcher.exec] at h
  rcases Timer.Stop_of_settled hsettled with ⟨htrue, hdrained⟩ | ⟨hfalse, -, hexp, hfull⟩
  · rw [if_pos htrue] at h
    cases h
    exact hinv.of_use hcode (fun u hu => by simp [Ne.symm hu]) (by simp) (by simp)
      (by simp) ((Expect_of_nextTouchIsReset hnext).2 hdrained)
      (fun _ hnone => absurd hw (hnone w))
  · rw [if_neg (by simp [hfalse])] at h
    cases h
    have hpend : Instr.pend ∈ Instr.drain t :: rest ↔ Instr.pend ∈ d.code := by
      rw [hcode]; simp
    have hpub : Instr.publish ∈ Instr.drain t :: rest ↔ Instr.publish ∈ d.code := by
      rw [hcode]; simp
    refine hinv.of_timers hdrain (fun u => ?_) (by simp [hcode]) hpend hpub
      (fun hp hp' => (hp' (hpend.2 (hinv.pending_or_first hp |>.resolve_right
        (by simp [hcode])))).elim)
      (fun hp u hu => hinv.idle_before_publish (hpub.1 hp) u (fun w hw => ?_))
    · rcases eq_or_ne u t with rfl | hu
      · exact Expect_drain_self.2 ⟨hexp, hfull⟩
      · rw [Expect_cons_of_not_touches (by simp [Ne.symm hu])]
        exact (Expect_cons_of_not_touches (by simp [Ne.symm hu])).1
          (hcode ▸ hinv.expect u)
    · rw [hcode] at hw
      rcases List.mem_cons.1 hw with hw | hw
      · cases hw
      · exact hu w (List.mem_cons_of_mem _ hw)

/-- `<-t.C }`: the value is there, and the timer then waits for its `Reset`. -/
theorem Inv.exec_drain (hinv : Inv d) (hcode : d.code = .drain t :: rest) {d' : Dispatcher α}
    (h : d.exec (.drain t) rest = some d') : Inv d' := by
  have hnext := shapes_drain (hcode ▸ hinv.shape)
  obtain ⟨w, hw⟩ := exists_reset_of_nextTouchIsReset hnext
  obtain ⟨hexp, hfull⟩ := Expect_drain_self.1 (hcode ▸ hinv.expect t)
  obtain ⟨hrecv, hdrained⟩ := Timer.receive_of_expired hexp hfull
  simp only [Dispatcher.exec, hrecv, Option.map_some, Option.some.injEq] at h
  subst h
  exact hinv.of_use hcode (fun u hu => by simp [Ne.symm hu]) (by simp) (by simp)
    (by simp) ((Expect_of_nextTouchIsReset hnext).2 hdrained)
    (fun _ hnone => absurd hw (hnone w))

/-- `t.Reset(d)`: the timer was drained, so it is settled afterwards, and idle when a
    publication follows. -/
theorem Inv.exec_reset (hinv : Inv d) {w : Bool} (hcode : d.code = .reset t w :: rest)
    {d' : Dispatcher α} (h : d.exec (.reset t w) rest = some d') : Inv d' := by
  obtain ⟨hnone, hpub⟩ := shapes_reset (hcode ▸ hinv.shape)
  have hdrained : (d.timers t).Drained := Expect_reset_self.1 (hcode ▸ hinv.expect t)
  simp only [Dispatcher.exec, Option.some.injEq] at h
  subst h
  refine hinv.of_use hcode (fun u hu => by simp [Ne.symm hu]) (by simp) (by simp)
    (fun u w' h => by cases h; rfl) ((Expect_of_find?_eq_none hnone).2
      (Timer.Reset_settled hdrained w)) (fun hp _ => ?_)
  -- a `Reset` followed by a publication is one to `noTimeout`
  cases w
  · rfl
  · exact absurd hp (hpub rfl)

/-- The statements other than timer uses do not touch the timers. -/
theorem Expect_cons_of_local {i : Instr} (hi : i = .pend ∨ i = .count ∨ i = .publish)
    {tm : Timer} : Expect t (i :: rest) tm ↔ Expect t rest tm := by
  apply Expect_cons_of_not_touches
  rcases hi with rfl | rfl | rfl <;> rfl

/-- `dispatchPending = true; batchCount++`. -/
theorem Inv.exec_pend (hinv : Inv d) (hcode : d.code = .pend :: rest) {d' : Dispatcher α}
    (h : d.exec .pend rest = some d') : Inv d' := by
  simp only [Dispatcher.exec, Option.some.injEq] at h
  subst h
  have hpub : Instr.publish ∈ d.code ↔ Instr.publish ∈ rest := hcode ▸ mem_cons_iff_of_ne (by simp)
  have hres : ∀ u w, Instr.reset u w ∈ d.code ↔ Instr.reset u w ∈ rest :=
    fun u w => hcode ▸ mem_cons_iff_of_ne (by simp)
  have hcount := hinv.counted
  have hpendIn : Instr.pend ∈ d.code := by simp [hcode]
  simp only [hpendIn, or_true, if_true] at hcount
  exact
    { shape := shapes_tail (hcode ▸ hinv.shape)
      expect := fun u => (Expect_cons_of_local (.inl rfl)).1 (hcode ▸ hinv.expect u)
      returned_code := fun hr => absurd (hinv.returned_code hr) (by simp [hcode])
      pending_or_first := fun h => by cases h
      idle_at_rest := fun h => by cases h
      idle_before_publish := fun hp u hu =>
        hinv.idle_before_publish (hpub.2 hp) u (fun w hw => hu w ((hres u w).1 hw))
      pending_of_publish := fun _ => rfl
      last_received := fun _ => hinv.last_received (.inr hpendIn)
      counted := by simpa using hcount
      batched := hinv.batched }

/-- `batchCount++`. -/
theorem Inv.exec_count (hinv : Inv d) (hcode : d.code = .count :: rest) {d' : Dispatcher α}
    (h : d.exec .count rest = some d') : Inv d' := by
  simp only [Dispatcher.exec, Option.some.injEq] at h
  subst h
  have hmem : ∀ j, j ≠ .count → (j ∈ d.code ↔ j ∈ rest) :=
    fun j hj => hcode ▸ mem_cons_iff_of_ne hj
  have hpend := hmem .pend (by simp)
  exact
    { shape := shapes_tail (hcode ▸ hinv.shape)
      expect := fun u => (Expect_cons_of_local (.inr (.inl rfl))).1 (hcode ▸ hinv.expect u)
      returned_code := fun hr => absurd (hinv.returned_code hr) (by simp [hcode])
      pending_or_first := fun hp => .inl (pend_mem_of_not_pending hinv hcode (by simp) hp)
      idle_at_rest := fun hp hp' => (hp' (pend_mem_of_not_pending hinv hcode (by simp) hp)).elim
      idle_before_publish := fun hp u hu => hinv.idle_before_publish ((hmem _ (by simp)).2 hp) u
        (fun w hw => hu w ((hmem _ (by simp)).1 hw))
      pending_of_publish := fun hp => hinv.pending_of_publish ((hmem _ (by simp)).2 hp)
      last_received := fun hp => hinv.last_received (hp.imp_right hpend.2)
      counted := by simpa [hpend] using hinv.counted
      batched := hinv.batched }

/-- At the publication, the last statement of its case, a dispatch is pending, the event is
    the one received last, and both timers are as `NewTimer` left them: their `Reset`s to
    `noTimeout` are behind. -/
theorem Inv.at_publish (hinv : Inv d) (hcode : d.code = .publish :: rest) :
    rest = [] ∧ d.dispatchPending = true ∧
      (∃ a, d.log.getLast? = some (.recv a) ∧ d.event = some a) ∧
      ∀ u, d.timers u = Timer.newIdle := by
  have hnil : rest = [] := shapes_publish (hcode ▸ hinv.shape)
  subst hnil
  have hpubIn : Instr.publish ∈ d.code := by simp [hcode]
  have hpending := hinv.pending_of_publish hpubIn
  refine ⟨rfl, hpending, hinv.last_received (.inl hpending), fun u => ?_⟩
  have hidle := hinv.idle_before_publish hpubIn u (fun w hw => by simp [hcode] at hw)
  have hsettled : (d.timers u).Settled :=
    (Expect_of_find?_eq_none rfl).1 ((Expect_cons_of_local (.inr (.inr rfl))).1 (hcode ▸ hinv.expect u))
  exact Timer.eq_newIdle_of_settled hsettled hidle

/-- The publication: the event received last goes out, and with both timers idle nothing is
    pending afterwards. -/
theorem Inv.exec_publish (hinv : Inv d) (hcode : d.code = .publish :: rest) {d' : Dispatcher α}
    (h : d.exec .publish rest = some d') : Inv d' := by
  simp only [Dispatcher.exec, Option.some.injEq] at h
  subst h
  obtain ⟨rfl, hpending, ⟨a, hlast, hevent⟩, hidle⟩ := hinv.at_publish hcode
  have hcount := hinv.counted
  simp only [hpending, true_or, if_true] at hcount
  exact
    { shape := (by decide : [] ∈ shapes)
      expect := fun u => (Expect_cons_of_local (.inr (.inr rfl))).1 (hcode ▸ hinv.expect u)
      returned_code := fun _ => rfl
      pending_or_first := fun _ => .inr rfl
      idle_at_rest := fun _ _ u => by rw [hidle u]; rfl
      idle_before_publish := fun h => by cases h
      pending_of_publish := fun h => by cases h
      last_received := fun h => by simp at h
      counted := by simpa [Obs.isPub, Obs.isRecv, List.filter_append, List.filter_cons] using hcount
      batched := hevent ▸ hinv.batched.append_pub hlast }

end exec

/-- The select takes an event: it becomes the event, and the event case starts. -/
theorem Inv.receive (hinv : Inv d) (hsel : d.AtSelect) (e : α) :
    Inv { d with event := some e, log := d.log ++ [.recv e]
                 code := if d.dispatchPending then onNextEvent else onFirstEvent } := by
  obtain ⟨hcode, hret⟩ := hsel
  have hsettled : ∀ u, (d.timers u).Settled := fun u =>
    (Expect_of_find?_eq_none (by rw [hcode]; rfl)).1 (hinv.expect u)
  have hcount := hinv.counted
  have hrecvs : ((d.log ++ [Obs.recv e]).filter Obs.isRecv).length = (d.log.filter Obs.isRecv).length + 1 := by
    simp [Obs.isRecv, List.filter_append, List.filter_cons]
  have hpubs : ((d.log ++ [Obs.recv e]).filter Obs.isPub).length = (d.log.filter Obs.isPub).length := by
    simp [Obs.isPub, List.filter_append]
  cases hp : d.dispatchPending
  · -- the first event of a batch: `pend` is ahead
    simp only [hp, hcode, List.not_mem_nil, or_self, if_false, Bool.false_eq_true] at hcount
    simp only [Bool.false_eq_true, if_false]
    exact
      { shape := (by decide : onFirstEvent ∈ shapes)
        expect := fun u => by cases u <;> simpa [Expect_def, onFirstEvent] using hsettled _
        returned_code := fun hr => by simp [hret] at hr
        pending_or_first := fun _ => .inl (by decide : Instr.pend ∈ onFirstEvent)
        idle_at_rest := fun _ h => absurd (by decide : Instr.pend ∈ onFirstEvent) h
        idle_before_publish := fun h => absurd h (by decide : Instr.publish ∉ onFirstEvent)
        pending_of_publish := fun h => absurd h (by decide : Instr.publish ∉ onFirstEvent)
        last_received := fun _ => ⟨e, by simp, rfl⟩
        counted := by
          rw [hrecvs, hpubs, if_pos (.inr (by decide : Instr.pend ∈ onFirstEvent))]
          omega
        batched := hinv.batched.append_recv e }
  · simp only [hp, if_true, true_or] at hcount
    simp only [if_true]
    exact
      { shape := (by decide : onNextEvent ∈ shapes)
        expect := fun u => by cases u <;> simpa [Expect_def, onNextEvent] using hsettled _
        returned_code := fun hr => by simp [hret] at hr
        pending_or_first := fun h => by cases h
        idle_at_rest := fun h => by cases h
        idle_before_publish := fun h => absurd h (by decide : Instr.publish ∉ onNextEvent)
        pending_of_publish := fun _ => rfl
        last_received := fun _ => ⟨e, by simp, rfl⟩
        counted := by
          rw [hrecvs, hpubs, if_pos (.inl rfl)]
          omega
        batched := hinv.batched.append_recv e }

/-- The select takes the value of a timer that fired: a dispatch is pending, since both timers
    are idle otherwise, and the timer's case starts with the timer drained. -/
theorem Inv.expire (hinv : Inv d) (hsel : d.AtSelect) {t : Which} {tm : Timer}
    (hrecv : (d.timers t).receive = some tm) :
    Inv { d with timers := Function.update d.timers t tm, code := onExpired t } := by
  obtain ⟨hcode, hret⟩ := hsel
  have hsettled : ∀ u, (d.timers u).Settled := fun u =>
    (Expect_of_find?_eq_none (by rw [hcode]; rfl)).1 (hinv.expect u)
  obtain ⟨hfull, rfl⟩ := Timer.receive_eq_some hrecv
  have hexp := Timer.expired_of_settled (hsettled t) hfull
  have hpending : d.dispatchPending = true := by
    cases hp : d.dispatchPending
    · have hidle := hinv.idle_at_rest hp (by simp [hcode]) t
      rw [hexp] at hidle; cases hidle
    · rfl
  have hdrained : ({ d.timers t with full := false } : Timer).Drained := ⟨.inl hexp, rfl⟩
  -- both timers are `Reset` before the publication
  have hres : ∀ u, Instr.reset u false ∈ onExpired t := fun u => by
    rcases Which.eq_or_eq_other u t with rfl | rfl <;> simp [onExpired]
  exact
    { shape := (by cases t <;> decide : onExpired t ∈ shapes)
      expect := fun u => by
        rcases Which.eq_or_eq_other u t with rfl | rfl
        · simpa [Expect_def, onExpired] using hdrained
        · show Expect t.other (onExpired t) (Function.update d.timers t _ t.other)
          rw [Function.update_of_ne (Which.other_ne t)]
          cases t <;> simpa [Expect_def, onExpired] using hsettled _
      returned_code := fun hr => by simp [hret] at hr
      pending_or_first := fun hp => by simp [hpending] at hp
      idle_at_rest := fun hp => by simp [hpending] at hp
      idle_before_publish := fun _ u hu => absurd (hres u) (hu false)
      pending_of_publish := fun _ => hpending
      last_received := fun _ => hinv.last_received (.inl hpending)
      counted := by simpa [hpending] using hinv.counted
      batched := hinv.batched }

/-- The select takes `stopCh`: the goroutine returns. -/
theorem Inv.stop (hinv : Inv d) (hsel : d.AtSelect) : Inv { d with returned := true } :=
  { hinv with returned_code := fun _ => hsel.1 }

/-- Every step keeps the invariant. -/
theorem Inv.step (hinv : Inv d) {a : Action α} {d' : Dispatcher α} (h : d.step a = some d') :
    Inv d' := by
  cases a with
  | next =>
    cases hcode : d.code with
    | nil => simp [Dispatcher.step, hcode] at h
    | cons i rest =>
      simp only [Dispatcher.step, hcode] at h
      cases i with
      | stop t => exact hinv.exec_stop hcode h
      | drain t => exact hinv.exec_drain hcode h
      | reset t w => exact hinv.exec_reset hcode h
      | pend => exact hinv.exec_pend hcode h
      | count => exact hinv.exec_count hcode h
      | publish => exact hinv.exec_publish hcode h
  | receive e =>
    simp only [Dispatcher.step] at h
    split at h
    · rename_i hsel
      cases h
      exact hinv.receive hsel e
    · cases h
  | expire t =>
    simp only [Dispatcher.step] at h
    split at h
    · rename_i hsel
      cases hrecv : (d.timers t).receive with
      | none => simp [hrecv] at h
      | some tm =>
        simp only [hrecv, Option.map_some, Option.some.injEq] at h
        subst h
        exact hinv.expire hsel hrecv
    · cases h
  | stop =>
    simp only [Dispatcher.step] at h
    split at h
    · rename_i hsel
      cases h
      exact hinv.stop hsel
    · cases h
  | fire t =>
    simp only [Dispatcher.step] at h
    cases hfire : (d.timers t).fire with
    | none => simp [hfire] at h
    | some tm =>
      simp only [hfire, Option.map_some, Option.some.injEq] at h
      subst h
      exact hinv.fire hfire

end steps

theorem Inv.init {α : Type} : Inv (Dispatcher.init : Dispatcher α) where
  shape := (by decide : [] ∈ shapes)
  expect _ := Timer.settled_of_idle rfl rfl
  returned_code _ := rfl
  pending_or_first _ := .inr rfl
  idle_at_rest _ _ _ := rfl
  idle_before_publish h := by cases h
  pending_of_publish h := by cases h
  last_received h := by simp [Dispatcher.init] at h
  counted := by simp [Dispatcher.init]
  batched l₁ e l₂ h := by simp [Dispatcher.init] at h

/-- The invariant holds in every state that a run of the loop reaches. -/
theorem dispatcher_invariant {α : Type} {d : Dispatcher α}
    (h : Sched.Reachable Dispatcher.step Dispatcher.init d) : Inv d :=
  Sched.Reachable.invariant Inv (fun _ _ _ hinv hstep => hinv.step hstep) Inv.init h

/-! ## What a run of the loop does -/

section contract

variable {α : Type} {d d' : Dispatcher α}

/-- Only the statement `Pub` adds to the log. -/
theorem exec_log {i : Instr} {rest : List Instr} (h : d.exec i rest = some d') :
    d'.log = d.log ∨
      i = .publish ∧ d' = { d with log := d.log ++ [.pub d.event], dispatchPending := false
                                   batchCount := 0, code := rest } := by
  cases i with
  | stop t =>
    simp only [Dispatcher.exec] at h
    split at h <;> (cases h; exact .inl rfl)
  | drain t =>
    simp only [Dispatcher.exec] at h
    obtain ⟨tm, -, rfl⟩ := Option.map_eq_some_iff.1 h
    exact .inl rfl
  | publish =>
    simp only [Dispatcher.exec, Option.some.injEq] at h
    exact .inr ⟨rfl, h.symm⟩
  | reset | pend | count =>
    simp only [Dispatcher.exec, Option.some.injEq] at h
    subst h
    exact .inl rfl

/-- What a step adds to the log: the select a receipt, the statement `Pub` a publication. -/
theorem step_log {a : Action α} (h : d.step a = some d') :
    d'.log = d.log ∨ (∃ e, d'.log = d.log ++ [.recv e]) ∨
      ∃ rest, d.code = .publish :: rest ∧
        d' = { d with log := d.log ++ [.pub d.event], dispatchPending := false, batchCount := 0
                      code := rest } := by
  cases a with
  | next =>
    cases hcode : d.code with
    | nil => simp [Dispatcher.step, hcode] at h
    | cons i rest =>
      simp only [Dispatcher.step, hcode] at h
      rcases exec_log h with hlog | ⟨rfl, rfl⟩
      · exact .inl hlog
      · exact .inr (.inr ⟨rest, rfl, rfl⟩)
  | receive e =>
    simp only [Dispatcher.step] at h
    split at h
    · cases h
      exact .inr (.inl ⟨e, rfl⟩)
    · cases h
  | expire t =>
    simp only [Dispatcher.step] at h
    split at h
    · obtain ⟨tm, -, rfl⟩ := Option.map_eq_some_iff.1 h
      exact .inl rfl
    · cases h
  | stop =>
    simp only [Dispatcher.step] at h
    split at h
    · cases h
      exact .inl rfl
    · cases h
  | fire t =>
    simp only [Dispatcher.step] at h
    obtain ⟨tm, -, rfl⟩ := Option.map_eq_some_iff.1 h
    exact .inl rfl

/-- A step that publishes runs the statement `Pub`, with the dispatcher's event. -/
theorem eq_of_step_pub {a : Action α} {e : Option α} (h : d.step a = some d')
    (hlog : d'.log = d.log ++ [.pub e]) :
    ∃ rest, d.code = .publish :: rest ∧ e = d.event ∧
      d' = { d with log := d.log ++ [.pub d.event], dispatchPending := false, batchCount := 0
                    code := rest } := by
  rcases step_log h with hsame | ⟨x, hx⟩ | ⟨rest, hcode, rfl⟩
  · have hlen := congrArg List.length (hsame.symm.trans hlog)
    simp at hlen
  · have hobs := hx.symm.trans hlog
    simp at hobs
  · simp only [List.append_cancel_left_eq, List.cons.injEq, Obs.pub.injEq, and_true] at hlog
    exact ⟨rest, hcode, hlog.symm, rfl⟩

theorem dispatcher_contract (hreach : Sched.Reachable Dispatcher.step Dispatcher.init d) :
    (∀ t rest, d.code = .stop t :: rest → (d.timers t).Stop.1 = false →
      (d.timers t).full = true) ∧
    (∀ t rest, d.code = .drain t :: rest → ∃ d', d.step .next = some d') ∧
    (∀ a d' e, d.step a = some d' → d'.log = d.log ++ [.pub e] →
      d.dispatchPending = true ∧ (∃ x, d.log.getLast? = some (.recv x) ∧ e = some x) ∧
      d'.dispatchPending = false ∧ d'.batchCount = 0 ∧ ∀ t, d'.timers t = Timer.newIdle) ∧
    (d.log.filter Obs.isPub).length ≤ (d.log.filter Obs.isRecv).length ∧
    (∀ l₁ e₁ l₂ e₂ l₃, d.log = l₁ ++ .pub e₁ :: (l₂ ++ .pub e₂ :: l₃) → ∃ x, .recv x ∈ l₂) := by
  have hinv := dispatcher_invariant hreach
  refine ⟨fun t rest hcode hstop => ?_, fun t rest hcode => ?_, fun a d' e hstep hlog => ?_,
    ?_, fun l₁ e₁ l₂ e₂ l₃ hlog => hinv.batched.recv_between hlog⟩
  · -- `Stop` answers `false` only on an expired timer, whose value is still there
    rcases Timer.Stop_of_settled (Expect_stop_self.1 (hcode ▸ hinv.expect t)) with
      ⟨htrue, -⟩ | ⟨-, -, -, hfull⟩
    · rw [htrue] at hstop; cases hstop
    · exact hfull
  · obtain ⟨hexp, hfull⟩ := Expect_drain_self.1 (hcode ▸ hinv.expect t)
    obtain ⟨hrecv, -⟩ := Timer.receive_of_expired hexp hfull
    simp [Dispatcher.step, hcode, Dispatcher.exec, hrecv]
  · obtain ⟨rest, hcode, rfl, rfl⟩ := eq_of_step_pub hstep hlog
    obtain ⟨-, hpending, hlast, hidle⟩ := hinv.at_publish hcode
    exact ⟨hpending, hlast.imp fun _ h => ⟨h.1, h.2⟩, rfl, rfl, hidle⟩
  · have hcount := hinv.counted
    split at hcount <;> omega

end contract

/-- An event, the sliding window running out, and the publication of the event. -/
def publishOnce : List (Action Nat) :=
  [.receive 7, .next, .next, .next, .next, .next, .fire .sliding, .expire .sliding,
   .next, .next, .next, .next]

example :
    (Sched.runActions Dispatcher.step Dispatcher.init publishOnce).map (·.log) =
      some [.recv 7, .pub (some 7)] := by
  decide

theorem dispatcher_contract_publishOnce :
    let d := (Sched.runActions Dispatcher.step Dispatcher.init publishOnce).getD Dispatcher.init
    Sched.Reachable Dispatcher.step Dispatcher.init d ∧
    ((∀ t rest, d.code = .stop t :: rest → (d.timers t).Stop.1 = false →
      (d.timers t).full = true) ∧
    (∀ t rest, d.code = .drain t :: rest → ∃ d', d.step .next = some d') ∧
    (∀ a d' e, d.step a = some d' → d'.log = d.log ++ [.pub e] →
      d.dispatchPending = true ∧ (∃ x, d.log.getLast? = some (.recv x) ∧ e = some x) ∧
      d'.dispatchPending = false ∧ d'.batchCount = 0 ∧ ∀ t, d'.timers t = Timer.newIdle) ∧
    (d.log.filter Obs.isPub).length ≤ (d.log.filter Obs.isRecv).length ∧
    (∀ l₁ e₁ l₂ e₂ l₃, d.log = l₁ ++ .pub e₁ :: (l₂ ++ .pub e₂ :: l₃) → ∃ x, .recv x ∈ l₂)) :=
  have hreach := Sched.reachable_of_runActions publishOnce rfl
  ⟨hreach, dispatcher_contract hreach⟩

end OsmEdge.Messaging
