import Mathlib.Order.Basic

/-
  Goroutines interleaved by a scheduler. A system of goroutines is a state and a step function
  `step : σ → α → Option σ`: an action names what one goroutine does next, and the step is
  `none` when that goroutine cannot move (it is blocked on a channel, or has returned). The
  scheduler may pick any enabled action at every point, so the states a run can reach are the
  `Reachable` ones; a state where no action is enabled is `Deadlocked`, and a run that reaches
  one stays there. `runActions` runs one schedule, so that a concrete interleaving can be
  evaluated.

  The lemmas are the induction rule for reachable states (an invariant kept by every step
  holds in every state reachable from a state that has it) and the facts a schedule is
  turned into a reachable state with.
-/

namespace Sched

variable {σ α : Type*} (step : σ → α → Option σ)

/-- The states a run from `s₀` reaches when the scheduler picks any enabled action at every
    point. -/
inductive Reachable (s₀ : σ) : σ → Prop
  | refl : Reachable s₀ s₀
  | tail {s t : σ} (a : α) : Reachable s₀ s → step s a = some t → Reachable s₀ t

/-- No action is enabled: every goroutine is blocked or has returned. -/
def Deadlocked (s : σ) : Prop := ∀ a, step s a = none

/-- One schedule: the actions run one after the other; `none` once one is not enabled. -/
def runActions : σ → List α → Option σ
  | s, [] => some s
  | s, a :: as => (step s a).bind fun t => runActions t as

variable {step}

/-- The induction rule of reachable states. -/
theorem Reachable.invariant (I : σ → Prop) (hstep : ∀ s a t, I s → step s a = some t → I t)
    {s₀ s : σ} (h₀ : I s₀) (h : Reachable step s₀ s) : I s := by
  induction h with
  | refl => exact h₀
  | tail a _ ha ih => exact hstep _ a _ ih ha

theorem Reachable.trans {s₀ s t : σ} (h₁ : Reachable step s₀ s) (h₂ : Reachable step s t) :
    Reachable step s₀ t := by
  induction h₂ with
  | refl => exact h₁
  | tail a _ ha ih => exact ih.tail a ha

/-- A schedule that runs to its end reaches the state it ends in. -/
theorem reachable_of_runActions :
    ∀ {s₀ s : σ} (as : List α), runActions step s₀ as = some s → Reachable step s₀ s
  | _, _, [], h => by
    cases h
    exact .refl
  | s₀, s, a :: as, h => by
    cases ha : step s₀ a with
    | none => simp [runActions, ha] at h
    | some t =>
      simp only [runActions, ha, Option.bind_some] at h
      exact (Reachable.refl.tail a ha).trans (reachable_of_runActions as h)

end Sched
