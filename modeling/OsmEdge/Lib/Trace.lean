import Mathlib.Data.List.Chain

/-
  Runs of a step function over a list of events, with the output of every step kept.
  A component that reacts to requests and sends replies is modelled as
  `step : σ → ε → ω × σ`; `run step s es` is the outputs of the events `es`, in order, and
  the final state. The lemmas are the two induction principles the proofs about such
  components use: an invariant kept by every step holds after a run, and a relation that
  every selected output has with the previously selected one (started from a value the
  state carries) holds along the whole output list.
-/

namespace Trace

variable {σ ε ω β : Type*} (step : σ → ε → ω × σ)

/-- The outputs and the final state of the events `es` from the state `s`. -/
def run : σ → List ε → List ω × σ
  | s, [] => ([], s)
  | s, e :: es =>
    let r := step s e
    let rest := run r.2 es
    (r.1 :: rest.1, rest.2)

@[simp] theorem run_nil (s : σ) : run step s [] = ([], s) := rfl

@[simp] theorem run_cons (s : σ) (e : ε) (es : List ε) :
    run step s (e :: es) =
      ((step s e).1 :: (run step (step s e).2 es).1, (run step (step s e).2 es).2) := rfl

/-- A run of `es₁ ++ es₂` is the run of `es₁` followed by the run of `es₂` from where the
    first one stopped. -/
theorem run_append (s : σ) (es₁ es₂ : List ε) :
    run step s (es₁ ++ es₂) =
      ((run step s es₁).1 ++ (run step (run step s es₁).2 es₂).1,
        (run step (run step s es₁).2 es₂).2) := by
  induction es₁ generalizing s with
  | nil => rfl
  | cons e es ih => simp [ih]

/-- Step lemma to run lemma: an invariant that every event satisfying `P` keeps holds after
    any run of such events. -/
theorem run_invariant (I : σ → Prop) (P : ε → Prop)
    (hstep : ∀ s e, P e → I s → I (step s e).2) :
    ∀ (es : List ε) (s : σ), (∀ e ∈ es, P e) → I s → I (run step s es).2 := by
  intro es
  induction es with
  | nil => intro s _ hs; exact hs
  | cons e es ih =>
    intro s hP hs
    exact ih _ (fun e' he' => hP e' (List.mem_cons_of_mem e he'))
      (hstep s e (hP e List.mem_cons_self) hs)

/-- Chains along the outputs. `sel` picks the outputs of interest and the value each
    carries; `I s a` says the state `s` remembers `a` as the last value picked. If every
    step either picks nothing and keeps `I s a`, or picks `b` with `R a b` and remembers
    `b`, then the picked values, after the starting value, form an `R`-chain. -/
theorem run_isChain (sel : ω → Option β) (R : β → β → Prop) (I : σ → β → Prop)
    (hnone : ∀ s e a, I s a → sel (step s e).1 = none → I (step s e).2 a)
    (hsome : ∀ s e a b, I s a → sel (step s e).1 = some b → R a b ∧ I (step s e).2 b) :
    ∀ (es : List ε) (s : σ) (a : β), I s a →
      List.IsChain R (a :: (run step s es).1.filterMap sel) := by
  intro es
  induction es with
  | nil => intro s a _; exact List.IsChain.singleton a
  | cons e es ih =>
    intro s a hs
    simp only [run_cons, List.filterMap_cons]
    -- the first event either picks nothing (the chain still starts at `a`) or picks `b`
    cases hsel : sel (step s e).1 with
    | none => exact ih _ a (hnone s e a hs hsel)
    | some b =>
      obtain ⟨hR, hb⟩ := hsome s e a b hs hsel
      exact List.IsChain.cons_cons hR (ih _ b hb)

end Trace
