import OsmEdge.Lib.GoText
import OsmEdge.Lib.Sched

/-
  The resync ticker of `pkg/ticker/ticker.go`: `Start` spawns a `startTicker` goroutine when
  the interval is at least the minimum, and the `watchConfig` goroutine, which follows the
  MeshConfig updates. On a new interval at least the minimum it stops the running ticker
  (when `r.running` says one runs) and spawns a new one; on a zero interval and on the quit
  signal it stops the ticker unconditionally. `stopTicker` sends on the unbuffered
  `stopTickerCh`, which only a `startTicker` goroutine in its select receives, and then clears
  `r.running`; `startTicker` sets `r.running` itself, once it runs.

  The goroutines interleave (`Sched`): the watcher's step handles one update, or the quit
  signal once the updates are exhausted, or completes its send together with the ticker that
  receives it; a spawned ticker's step sets `r.running`. The ticks themselves, which only
  enqueue a proxy update, are left out.

  `r.running` is read and written by several goroutines without synchronisation; the model
  interleaves these accesses one at a time.

  Proved:
  * `blocked_deadlocked`: a watcher that sends while no ticker is alive never moves again.
  * `resync_ticker_races`: handling the quit signal or a change to `0` while no ticker is
    alive blocks the watcher for good (the initial state of `Start` with an interval below the
    minimum is such a state); and a run of valid changes handled before the spawned tickers
    get to run leaves one ticker alive per change.
-/

namespace OsmEdge.Ticker

/-- A MeshConfig update as the watcher reads it: the old and the new
    `Spec.Sidecar.ConfigResyncInterval`. -/
structure MeshConfigUpdate where
  old : String
  new : String
  deriving DecidableEq, Repr

/-- What the watcher does once its `stopTicker` has sent. -/
inductive AfterStop
  /-- `go r.startTicker(newResyncInterval)`, then the next update. -/
  | startTicker (interval : Int)
  /-- The next update (the interval was set to 0). -/
  | watch
  /-- `return`, after the quit signal. -/
  | exit
  deriving DecidableEq, Repr

/-- Where the `watchConfig` goroutine is. -/
inductive WatcherPc
  /-- At its select. -/
  | select
  /-- Blocked in `stopTicker` on `r.stopTickerCh <- struct{}{}`. -/
  | stopping (next : AfterStop)
  | returned
  deriving DecidableEq, Repr

/-- Where a `startTicker` goroutine is. -/
inductive TickerPc
  /-- Spawned, before `r.running = true`. -/
  | spawned (interval : Int)
  /-- In its select loop, where it can receive from `stopTickerCh`. -/
  | ticking (interval : Int)
  deriving DecidableEq, Repr

/-- `ResyncTicker` with its goroutines: the shared fields, the watcher, the updates it has yet
    to receive, and the `startTicker` goroutines alive. -/
structure ResyncTicker where
  running : Bool
  invalidIntervalCounter : Nat
  watcher : WatcherPc
  updates : List MeshConfigUpdate
  tickers : List TickerPc
  deriving DecidableEq, Repr

/-- What the scheduler runs next. -/
inductive Action
  /-- The watcher handles the next update, or the quit signal when none is left. -/
  | watch
  /-- The ticker at this index receives the watcher's send. -/
  | receive (i : Nat)
  /-- The spawned ticker at this index sets `r.running`. -/
  | run (i : Nat)
  deriving DecidableEq, Repr

section model

variable (minTickInterval : Int) (ParseDuration : String → Option Int)

/-- `go r.startTicker(interval)`. -/
def spawnTicker (r : ResyncTicker) (interval : Int) : ResyncTicker :=
  { r with tickers := r.tickers ++ [.spawned interval] }

/-- `Start(quit, resyncInterval)` on a new `ResyncTicker`, whose `running` is false: the
    ticker when the interval is at least the minimum, and the watcher of the given updates. -/
def Start (updates : List MeshConfigUpdate) (resyncInterval : Int) : ResyncTicker :=
  let r : ResyncTicker :=
    { running := false, invalidIntervalCounter := 0, watcher := .select, updates, tickers := [] }
  if resyncInterval ≥ minTickInterval then spawnTicker r resyncInterval else r

/-- The update case of the watcher's select, up to the send of `stopTicker` when it makes
    one. -/
def handleUpdate (r : ResyncTicker) (u : MeshConfigUpdate) : ResyncTicker :=
  if u.old = u.new then r
  else if u.new = "" then r
  else
    match ParseDuration u.new with
    | none => r
    | some newResyncInterval =>
      if newResyncInterval ≥ minTickInterval then
        if r.running then { r with watcher := .stopping (.startTicker newResyncInterval) }
        else spawnTicker r newResyncInterval
      else if newResyncInterval = 0 then { r with watcher := .stopping .watch }
      else { r with invalidIntervalCounter := r.invalidIntervalCounter + 1 }

/-- The rest of the watcher's iteration once its send was received and `r.running` cleared. -/
def afterStop (r : ResyncTicker) : AfterStop → ResyncTicker
  | .startTicker interval => { spawnTicker r interval with watcher := .select }
  | .watch => { r with watcher := .select }
  | .exit => { r with watcher := .returned }

/-- One step of the goroutine the action names; `none` when it cannot move. -/
def step (r : ResyncTicker) : Action → Option ResyncTicker
  | .watch =>
    match r.watcher, r.updates with
    | .select, u :: us => some (handleUpdate minTickInterval ParseDuration { r with updates := us } u)
    | .select, [] => some { r with watcher := .stopping .exit }
    | _, _ => none
  | .receive i =>
    match r.watcher, r.tickers[i]? with
    | .stopping next, some (.ticking _) =>
      some (afterStop { r with tickers := r.tickers.eraseIdx i, running := false } next)
    | _, _ => none
  | .run i =>
    match r.tickers[i]? with
    | some (.spawned interval) =>
      some { r with running := true, tickers := r.tickers.set i (.ticking interval) }
    | _ => none

/-- An update the watcher acts on with a new interval of at least the minimum. -/
def ValidChange (u : MeshConfigUpdate) : Prop :=
  u.old ≠ u.new ∧ u.new ≠ "" ∧ ∃ d, ParseDuration u.new = some d ∧ minTickInterval ≤ d

/-- An update the watcher passes over: unchanged, empty, unparsable, or a nonzero interval
    below the minimum. -/
def Ignored (u : MeshConfigUpdate) : Prop :=
  u.old = u.new ∨ u.new = "" ∨ ParseDuration u.new = none ∨
    ∃ d, ParseDuration u.new = some d ∧ d < minTickInterval ∧ d ≠ 0

end model

/-- The watcher is in `stopTicker`'s send while no `startTicker` goroutine is alive. -/
def Blocked (r : ResyncTicker) : Prop :=
  (∃ next, r.watcher = .stopping next) ∧ r.tickers = []

section facts

variable {minTickInterval : Int} {ParseDuration : String → Option Int}

section start

variable (minTickInterval : Int) (updates : List MeshConfigUpdate) (resyncInterval : Int)

@[simp] theorem Start_watcher : (Start minTickInterval updates resyncInterval).watcher = .select := by
  unfold Start; split <;> rfl

@[simp] theorem Start_running : (Start minTickInterval updates resyncInterval).running = false := by
  unfold Start; split <;> rfl

@[simp] theorem Start_updates : (Start minTickInterval updates resyncInterval).updates = updates := by
  unfold Start; split <;> rfl

@[simp] theorem Start_tickers :
    (Start minTickInterval updates resyncInterval).tickers =
      if resyncInterval ≥ minTickInterval then [.spawned resyncInterval] else [] := by
  unfold Start; split <;> rfl

end start

/-- A blocked watcher never moves again: no goroutine is left to receive its send, and only
    the watcher spawns tickers. -/
theorem blocked_deadlocked {r : ResyncTicker} (h : Blocked r) :
    Sched.Deadlocked (step minTickInterval ParseDuration) r := by
  obtain ⟨⟨next, hw⟩, ht⟩ := h
  intro a
  cases a with
  | watch => simp [step, hw]
  | receive i => simp [step, hw, ht]
  | run i => simp [step, ht]

/-- The quit signal, handled while no ticker is alive, blocks the watcher. -/
theorem step_watch_quit {r : ResyncTicker} (hw : r.watcher = .select) (hu : r.updates = [])
    (ht : r.tickers = []) :
    ∃ r', step minTickInterval ParseDuration r .watch = some r' ∧ Blocked r' := by
  refine ⟨{ r with watcher := .stopping .exit }, ?_, ⟨_, rfl⟩, ht⟩
  simp [step, hw, hu]

/-- A change to `0`, handled while no ticker is alive, blocks the watcher. -/
theorem step_watch_zero {r : ResyncTicker} {u : MeshConfigUpdate} {us : List MeshConfigUpdate}
    (hmin : 0 < minTickInterval) (hw : r.watcher = .select) (hu : r.updates = u :: us)
    (hold : u.old ≠ u.new) (hnew : u.new ≠ "") (hzero : ParseDuration u.new = some 0)
    (ht : r.tickers = []) :
    ∃ r', step minTickInterval ParseDuration r .watch = some r' ∧ Blocked r' := by
  refine ⟨{ r with updates := us, watcher := .stopping .watch }, ?_, ⟨_, rfl⟩, ht⟩
  have hlt : ¬ (0 : Int) ≥ minTickInterval := by omega
  simp [step, hw, hu, handleUpdate, hold, hnew, hzero, hlt]

/-- A valid change, handled while `r.running` is false, spawns a ticker whatever is alive. -/
theorem step_watch_valid {r : ResyncTicker} {u : MeshConfigUpdate} {us : List MeshConfigUpdate}
    (hw : r.watcher = .select) (hu : r.updates = u :: us) (hrunning : r.running = false)
    (hvalid : ValidChange minTickInterval ParseDuration u) :
    ∃ d, step minTickInterval ParseDuration r .watch =
      some (spawnTicker { r with updates := us } d) := by
  obtain ⟨hold, hnew, d, hparse, hd⟩ := hvalid
  refine ⟨d, ?_⟩
  simp [step, hw, hu, handleUpdate, hold, hnew, hparse, hd, hrunning]

/-- An update the watcher passes over leaves it at its select, with the same tickers. -/
theorem step_watch_ignored {r : ResyncTicker} {u : MeshConfigUpdate} {us : List MeshConfigUpdate}
    (hw : r.watcher = .select) (hu : r.updates = u :: us)
    (hignored : Ignored minTickInterval ParseDuration u) :
    ∃ r', step minTickInterval ParseDuration r .watch = some r' ∧ r'.watcher = .select ∧
      r'.updates = us ∧ r'.tickers = r.tickers := by
  simp only [step, hw, hu, Option.some.injEq, exists_eq_left']
  unfold handleUpdate
  rcases hignored with hold | hnew | hparse | ⟨d, hparse, hlt, hzero⟩
  · simp [hold]
  · simp [hnew]
  · by_cases hold : u.old = u.new
    · simp [hold]
    · by_cases hnew : u.new = ""
      · simp [hnew]
      · simp [hold, hnew, hparse]
  · -- below the minimum and not zero: only `invalidIntervalCounter` moves
    have hge : ¬ d ≥ minTickInterval := by omega
    by_cases hold : u.old = u.new
    · simp [hold]
    · by_cases hnew : u.new = ""
      · simp [hnew]
      · simp [hold, hnew, hparse, hge, hzero]

/-- Updates the watcher passes over, handled one after the other, leave the tickers alone. -/
theorem runActions_watch_ignored :
    ∀ (us rest : List MeshConfigUpdate) (r : ResyncTicker), r.watcher = .select →
      r.updates = us ++ rest → (∀ u ∈ us, Ignored minTickInterval ParseDuration u) →
      ∃ r', Sched.runActions (step minTickInterval ParseDuration) r
          (List.replicate us.length .watch) = some r' ∧
        r'.watcher = .select ∧ r'.updates = rest ∧ r'.tickers = r.tickers
  | [], rest, r, hw, hu, _ => ⟨r, rfl, hw, by simpa using hu, rfl⟩
  | u :: us, rest, r, hw, hu, hignored => by
    obtain ⟨r₁, hstep, hw₁, hu₁, ht₁⟩ := step_watch_ignored hw hu (hignored u List.mem_cons_self)
    obtain ⟨r', hrun, hw', hu', ht'⟩ := runActions_watch_ignored us rest r₁ hw₁ hu₁
      (fun v hv => hignored v (List.mem_cons_of_mem u hv))
    refine ⟨r', ?_, hw', hu', ht'.trans ht₁⟩
    simp only [List.length_cons, List.replicate_succ, Sched.runActions, hstep, Option.bind_some]
    exact hrun

/-- Valid changes handled one after the other, before any spawned ticker runs, each spawn a
    ticker. -/
theorem runActions_watch_valid :
    ∀ (us rest : List MeshConfigUpdate) (r : ResyncTicker), r.watcher = .select →
      r.running = false → r.updates = us ++ rest →
      (∀ u ∈ us, ValidChange minTickInterval ParseDuration u) →
      ∃ r', Sched.runActions (step minTickInterval ParseDuration) r
          (List.replicate us.length .watch) = some r' ∧
        r'.watcher = .select ∧ r'.updates = rest ∧ r'.tickers.length = r.tickers.length + us.length
  | [], rest, r, hw, _, hu, _ => ⟨r, rfl, hw, by simpa using hu, by simp⟩
  | u :: us, rest, r, hw, hrunning, hu, hvalid => by
    obtain ⟨d, hstep⟩ := step_watch_valid hw hu hrunning (hvalid u List.mem_cons_self)
    -- the spawned ticker has not run, so `r.running` is still false for the next change
    obtain ⟨r', hrun, hw', hu', hlen⟩ := runActions_watch_valid us rest
      (spawnTicker { r with updates := us ++ rest } d) hw hrunning rfl
      (fun v hv => hvalid v (List.mem_cons_of_mem u hv))
    refine ⟨r', ?_, hw', hu', ?_⟩
    · simp only [List.length_cons, List.replicate_succ, Sched.runActions, hstep, Option.bind_some]
      exact hrun
    · rw [hlen]
      simp [spawnTicker]
      omega

end facts

/-- Both halves of the ticker's contract fail. A `stopTicker` made while no ticker is alive
    (on the quit signal, or on a change to `0`) blocks the watcher on its send for good, and
    `Start` with an interval below the minimum, followed by updates the watcher passes over,
    comes to such a send. And since a spawned ticker sets `r.running` only once it runs, valid
    changes handled before the spawned tickers run each spawn one more: as many tickers are
    alive as changes were made, plus the one `Start` spawned. -/
theorem resync_ticker_races (minTickInterval : Int) (ParseDuration : String → Option Int)
    (hmin : 0 < minTickInterval) :
    (∀ r : ResyncTicker, r.watcher = .select → r.tickers = [] →
      (r.updates = [] ∨ ∃ u us, r.updates = u :: us ∧ u.old ≠ u.new ∧ u.new ≠ "" ∧
        ParseDuration u.new = some 0) →
      ∃ r', step minTickInterval ParseDuration r .watch = some r' ∧ Blocked r' ∧
        Sched.Deadlocked (step minTickInterval ParseDuration) r') ∧
    (∀ updates resyncInterval, resyncInterval < minTickInterval →
      (∀ u ∈ updates, Ignored minTickInterval ParseDuration u) →
      ∃ r', Sched.Reachable (step minTickInterval ParseDuration)
          (Start minTickInterval updates resyncInterval) r' ∧ Blocked r' ∧
        Sched.Deadlocked (step minTickInterval ParseDuration) r') ∧
    (∀ updates resyncInterval, (∀ u ∈ updates, ValidChange minTickInterval ParseDuration u) →
      ∃ r', Sched.Reachable (step minTickInterval ParseDuration)
          (Start minTickInterval updates resyncInterval) r' ∧
        r'.tickers.length = updates.length + if resyncInterval ≥ minTickInterval then 1 else 0) := by
  refine ⟨?stop, ?start, ?spawn⟩
  case stop =>
    intro r hw ht hnext
    rcases hnext with hu | ⟨u, us, hu, hold, hnew, hzero⟩
    · obtain ⟨r', hstep, hblocked⟩ := step_watch_quit hw hu ht
      exact ⟨r', hstep, hblocked, blocked_deadlocked hblocked⟩
    · obtain ⟨r', hstep, hblocked⟩ := step_watch_zero hmin hw hu hold hnew hzero ht
      exact ⟨r', hstep, hblocked, blocked_deadlocked hblocked⟩
  case start =>
    intro updates resyncInterval hlt hignored
    have hnone : ¬ resyncInterval ≥ minTickInterval := by omega
    -- the updates pass, then the quit signal finds no ticker
    obtain ⟨r₁, hrun, hw₁, hu₁, ht₁⟩ := runActions_watch_ignored updates []
      (Start minTickInterval updates resyncInterval) (Start_watcher _ _ _) (by simp) hignored
    have ht₁' : r₁.tickers = [] := by simp [ht₁, hnone]
    obtain ⟨r', hstep, hblocked⟩ :=
      @step_watch_quit minTickInterval ParseDuration _ hw₁ hu₁ ht₁'
    exact ⟨r', (Sched.reachable_of_runActions _ hrun).tail .watch hstep, hblocked,
      blocked_deadlocked hblocked⟩
  case spawn =>
    intro updates resyncInterval hvalid
    obtain ⟨r', hrun, -, -, hlen⟩ := runActions_watch_valid updates []
      (Start minTickInterval updates resyncInterval) (Start_watcher _ _ _) (Start_running _ _ _)
      (by simp) hvalid
    refine ⟨r', Sched.reachable_of_runActions _ hrun, ?_⟩
    rw [hlen, Start_tickers]
    split <;> simp [Nat.add_comm]

/-- The catalog's ticker: a minimum of 30 s, with Go's duration syntax. -/
theorem resync_ticker_races_catalog :
    (0 : Int) < 30000000000 ∧
    (∀ r : ResyncTicker, r.watcher = .select → r.tickers = [] →
      (r.updates = [] ∨ ∃ u us, r.updates = u :: us ∧ u.old ≠ u.new ∧ u.new ≠ "" ∧
        GoText.parseDuration u.new.toList = some 0) →
      ∃ r', step 30000000000 (fun s => GoText.parseDuration s.toList) r .watch = some r' ∧
        Blocked r' ∧ Sched.Deadlocked (step 30000000000 (fun s => GoText.parseDuration s.toList)) r') ∧
    (∀ updates resyncInterval, resyncInterval < 30000000000 →
      (∀ u ∈ updates, Ignored 30000000000 (fun s => GoText.parseDuration s.toList) u) →
      ∃ r', Sched.Reachable (step 30000000000 (fun s => GoText.parseDuration s.toList))
          (Start 30000000000 updates resyncInterval) r' ∧ Blocked r' ∧
        Sched.Deadlocked (step 30000000000 (fun s => GoText.parseDuration s.toList)) r') ∧
    (∀ updates resyncInterval,
      (∀ u ∈ updates, ValidChange 30000000000 (fun s => GoText.parseDuration s.toList) u) →
      ∃ r', Sched.Reachable (step 30000000000 (fun s => GoText.parseDuration s.toList))
          (Start 30000000000 updates resyncInterval) r' ∧
        r'.tickers.length = updates.length + if resyncInterval ≥ 30000000000 then 1 else 0) :=
  ⟨by decide, resync_ticker_races 30000000000 (fun s => GoText.parseDuration s.toList) (by decide)⟩

/-- With the default interval `0s`, two changes a minute apart handled at once leave two
    tickers alive. -/
example :
    ((Sched.runActions (step 30000000000 (fun s => GoText.parseDuration s.toList))
      (Start 30000000000 [⟨"0s", "1m"⟩, ⟨"1m", "2m"⟩] 0) [.watch, .watch]).map
        (·.tickers)) = some [.spawned 60000000000, .spawned 120000000000] := by
  decide

end OsmEdge.Ticker
