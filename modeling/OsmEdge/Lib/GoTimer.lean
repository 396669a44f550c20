import Mathlib.Order.Basic

/-
  Go's `time.Timer` as of Go 1.19, seen from the goroutine that owns it. The runtime fires an
  armed timer at a moment of its own, putting one value in the timer's channel `C` of
  capacity 1 (a value already there is kept). `Stop` disarms the timer and answers whether it
  did: `false` once the timer has expired or been stopped, whether or not its value was read.
  `Reset` arms the timer again and leaves `C` as it is.

  A timer armed with a duration the program never waits out (a decade, say) is `idle`: it does
  not fire. Durations are otherwise not modelled: an armed timer may fire at any point.

  The idiom `if !t.Stop() { <-t.C }; t.Reset(d)` is safe on a `Settled` timer (idle or armed
  with `C` empty, or expired with its value in `C`): when `Stop` answers `false` the value is
  there to drain, and the timer ends settled again (`Stop_of_settled`, `Reset_settled`).
-/

namespace GoTimer

/-- Where a timer is. -/
inductive Status
  /-- Armed with a duration that never runs out. -/
  | idle
  /-- Armed with a duration: it may fire. -/
  | armed
  | expired
  | stopped
  deriving DecidableEq, Repr

/-- A timer and its channel, which holds at most one value. -/
structure Timer where
  status : Status
  full : Bool
  deriving DecidableEq, Repr

namespace Timer

/-- `NewTimer(d)` for a duration that never runs out. -/
def newIdle : Timer := ⟨.idle, false⟩

/-- `t.Stop()`: its answer and the timer after it. -/
def Stop (t : Timer) : Bool × Timer :=
  match t.status with
  | .idle | .armed => (true, { t with status := .stopped })
  | .expired | .stopped => (false, t)

/-- `t.Reset(d)`, for a duration that runs out (`expires`) or not. -/
def Reset (t : Timer) (expires : Bool) : Timer :=
  { t with status := if expires then .armed else .idle }

/-- The runtime fires an armed timer. -/
def fire (t : Timer) : Option Timer :=
  if t.status = .armed then some ⟨.expired, true⟩ else none

/-- `<-t.C`: blocks while `C` is empty. -/
def receive (t : Timer) : Option Timer :=
  if t.full then some { t with full := false } else none

/-- Idle or armed with `C` empty, or expired with its value in `C`. -/
def Settled (t : Timer) : Prop :=
  ((t.status = .idle ∨ t.status = .armed) ∧ t.full = false) ∨
    (t.status = .expired ∧ t.full = true)

/-- A timer whose value was read, or that was stopped, with `C` empty: what `Reset` must
    find for `C` to hold no stale value afterwards. -/
def Drained (t : Timer) : Prop :=
  (t.status = .expired ∨ t.status = .stopped) ∧ t.full = false

/-- Only an armed timer fires, and it ends expired with its value in `C`. -/
theorem fire_eq_some {t t' : Timer} (h : t.fire = some t') :
    t.status = .armed ∧ t' = ⟨.expired, true⟩ := by
  unfold fire at h
  split at h
  · cases h
    exact ⟨by assumption, rfl⟩
  · cases h

/-- `Stop` on a settled timer: either it answers `true` and leaves the timer drained, or it
    answers `false` on an expired timer whose value waits in `C`. -/
theorem Stop_of_settled {t : Timer} (h : t.Settled) :
    (t.Stop.1 = true ∧ t.Stop.2.Drained) ∨
      (t.Stop.1 = false ∧ t.Stop.2 = t ∧ t.status = .expired ∧ t.full = true) := by
  rcases h with ⟨hs | hs, hfull⟩ | ⟨hs, hfull⟩
  · exact .inl ⟨by simp [Stop, hs], by simp [Stop, hs, Drained, hfull]⟩
  · exact .inl ⟨by simp [Stop, hs], by simp [Stop, hs, Drained, hfull]⟩
  · exact .inr ⟨by simp [Stop, hs], by simp [Stop, hs], hs, hfull⟩

/-- `<-t.C` goes through only when `C` holds a value, which it takes. -/
theorem receive_eq_some {t t' : Timer} (h : t.receive = some t') :
    t.full = true ∧ t' = { t with full := false } := by
  unfold receive at h
  split at h
  · cases h
    exact ⟨by assumption, rfl⟩
  · cases h

/-- Reading the value of an expired timer drains it. -/
theorem receive_of_expired {t : Timer} (hs : t.status = .expired) (hfull : t.full = true) :
    t.receive = some { t with full := false } ∧ ({ t with full := false } : Timer).Drained := by
  simp [receive, hfull, Drained, hs]

/-- `Reset` on a drained timer settles it. -/
theorem Reset_settled {t : Timer} (h : t.Drained) (expires : Bool) : (t.Reset expires).Settled := by
  obtain ⟨-, hfull⟩ := h
  cases expires <;> simp [Reset, Settled, hfull]

/-- An idle timer is settled. -/
theorem settled_of_idle {t : Timer} (hs : t.status = .idle) (hfull : t.full = false) :
    t.Settled :=
  .inl ⟨.inl hs, hfull⟩

/-- A settled idle timer is one fresh from `NewTimer` with a duration that never runs out. -/
theorem eq_newIdle_of_settled {t : Timer} (h : t.Settled) (hs : t.status = .idle) :
    t = newIdle := by
  rcases h with ⟨-, hfull⟩ | ⟨hs', -⟩
  · cases t
    simp_all [newIdle]
  · rw [hs] at hs'; cases hs'

/-- A settled timer whose value waits is expired. -/
theorem expired_of_settled {t : Timer} (h : t.Settled) (hfull : t.full = true) :
    t.status = .expired := by
  rcases h with ⟨-, h⟩ | ⟨hs, -⟩
  · rw [hfull] at h; cases h
  · exact hs

end Timer

end GoTimer
