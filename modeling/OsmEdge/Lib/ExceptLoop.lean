import Mathlib.Data.List.Basic

/-
  Loops that can stop with an error: `List.foldlM` in `Except ε`, the shape of a Go loop whose
  body can panic or return an error. A panic is an error carrying Go's message, such as
  `nilDereference` or `indexOutOfRange`.

  When whether a step fails depends on the element alone and not on the state the loop has
  built, the loop fails exactly when one of the elements is bad (`foldlM_error_iff`), in
  whatever order they come.

  The invariant rule (`foldlM_invariant`): a loop whose every step keeps an invariant, and
  succeeds, succeeds with a state that has it.

  A loop of checks that keeps no state, `List.forM`, succeeds exactly when every check does
  (`forM_ok_iff`).

  A loop that cannot fail, `List.foldl`, keeps every part of its state that each step keeps
  (`foldl_keeps`): the frame rule of a loop body that writes some fields only. A part that
  each step appends to ends with every step's part in order (`foldl_appends`).

  A loop that fills maps standing for a relation (`foldl_extends`, `foldlM_extends`): when
  every step keeps the maps describing the relation, extended by what the element adds, the
  loop ends with maps that describe what all the elements add.
-/

namespace ExceptLoop

/-- Go's panic on a nil pointer dereference. -/
def nilDereference : String :=
  "runtime error: invalid memory address or nil pointer dereference"

/-- Go's panic on an index past the end of a slice. -/
def indexOutOfRange (i n : Nat) : String :=
  "runtime error: index out of range [" ++ toString i ++ "] with length " ++ toString n

variable {ε σ α : Type*}

/-- A step that succeeds carries the loop on from its result. -/
@[simp] theorem foldlM_cons_ok {f : σ → α → Except ε σ} {s s' : σ} {a : α} (as : List α)
    (h : f s a = .ok s') : (a :: as).foldlM f s = as.foldlM f s' := by
  rw [List.foldlM_cons, h]
  rfl

/-- A step that fails stops the loop with its error. -/
@[simp] theorem foldlM_cons_error {f : σ → α → Except ε σ} {s : σ} {a : α} {e : ε} (as : List α)
    (h : f s a = .error e) : (a :: as).foldlM f s = .error e := by
  rw [List.foldlM_cons, h]
  rfl

@[simp] theorem map_ok {β : Type*} (g : σ → β) (a : σ) :
    (Except.ok a : Except ε σ).map g = .ok (g a) := rfl

@[simp] theorem map_error {β : Type*} (g : σ → β) (e : ε) :
    (Except.error e : Except ε σ).map g = .error e := rfl

/-- A result computed from a computation's fails exactly when the computation does. -/
@[simp] theorem map_error_iff {β : Type*} (g : σ → β) (x : Except ε σ) :
    (∃ e, x.map g = .error e) ↔ ∃ e, x = .error e := by
  cases x <;> simp [Except.map]

/-- A result computed from a computation's is computed from the computation's result. -/
theorem map_eq_ok_iff {β : Type*} (g : σ → β) (x : Except ε σ) (b : β) :
    x.map g = .ok b ↔ ∃ a, x = .ok a ∧ g a = b := by
  cases x <;> simp [Except.map]

/-- A loop whose steps fail on the bad elements, whatever the state, fails exactly when the
    list has a bad element. -/
theorem foldlM_error_iff (f : σ → α → Except ε σ) (bad : α → Prop)
    (hf : ∀ s a, (∃ e, f s a = .error e) ↔ bad a) :
    ∀ (xs : List α) (s : σ), (∃ e, xs.foldlM f s = .error e) ↔ ∃ a ∈ xs, bad a := by
  intro xs
  induction xs with
  | nil => intro s; simp [pure, Except.pure]
  | cons a as ih =>
    intro s
    cases hs : f s a with
    | error e =>
      rw [foldlM_cons_error as hs]
      exact ⟨fun _ => ⟨a, List.mem_cons_self, (hf s a).1 ⟨e, hs⟩⟩, fun _ => ⟨e, rfl⟩⟩
    | ok s' =>
      -- the first element is good, so the rest decides
      have hgood : ¬ bad a := by
        intro hb
        obtain ⟨e, he⟩ := (hf s a).2 hb
        rw [hs] at he
        cases he
      rw [foldlM_cons_ok as hs, ih s']
      simp [hgood]

/-- The invariant rule of a loop that can fail: when every step from a state with the
    invariant succeeds with a state that has it, so does the whole loop. -/
theorem foldlM_invariant (f : σ → α → Except ε σ) (I : σ → Prop)
    (hstep : ∀ s a, I s → ∃ s', f s a = .ok s' ∧ I s') :
    ∀ (xs : List α) (s : σ), I s → ∃ s', xs.foldlM f s = .ok s' ∧ I s'
  | [], s, hs => ⟨s, rfl, hs⟩
  | a :: as, s, hs => by
    obtain ⟨s', hf, hs'⟩ := hstep s a hs
    rw [foldlM_cons_ok as hf]
    exact foldlM_invariant f I hstep as s' hs'

/-- The other half of the invariant rule: a property every successful step keeps holds
    after a successful loop. -/
theorem foldlM_preserves (f : σ → α → Except ε σ) (I : σ → Prop)
    (hstep : ∀ s a s', f s a = .ok s' → I s → I s') :
    ∀ (xs : List α) (s s' : σ), xs.foldlM f s = .ok s' → I s → I s'
  | [], s, s', hrun, hs => by
    obtain rfl : s = s' := by simpa [pure, Except.pure] using hrun
    exact hs
  | a :: as, s, s', hrun, hs => by
    cases hf : f s a with
    | error e => rw [foldlM_cons_error as hf] at hrun; cases hrun
    | ok s₁ =>
      rw [foldlM_cons_ok as hf] at hrun
      exact foldlM_preserves f I hstep as s₁ s' hrun (hstep s a s₁ hf hs)

/-- A loop over elements that each leave the state as it is leaves it. -/
theorem foldlM_of_skip (f : σ → α → Except ε σ) :
    ∀ (xs : List α), (∀ a ∈ xs, ∀ s, f s a = .ok s) → ∀ s, xs.foldlM f s = .ok s
  | [], _, _ => rfl
  | a :: as, h, s => by
    rw [foldlM_cons_ok as (h a List.mem_cons_self s)]
    exact foldlM_of_skip f as (fun b hb => h b (List.mem_cons_of_mem a hb)) s

/-- A loop of checks, `for _, x := range xs { if err := f(x); err != nil { return err } }`,
    succeeds exactly when every check does. -/
theorem forM_ok_iff (f : α → Except ε PUnit) :
    ∀ xs : List α, xs.forM f = .ok () ↔ ∀ a ∈ xs, f a = .ok ()
  | [] => by simp [List.forM, pure, Except.pure]
  | a :: as => by
    simp only [List.forM]
    cases ha : f a with
    | error e => simp [bind, Except.bind, ha]
    | ok u =>
      simp only [bind, Except.bind, ha, List.mem_cons, forall_eq_or_imp, true_and]
      exact forM_ok_iff f as

/-- A part of the state that every successful step changes as a pure loop would is, after a
    successful loop, what the pure loop computes of it. -/
theorem foldlM_hom {β : Type*} (proj : σ → β) (f : σ → α → Except ε σ) (g : β → α → β)
    (h : ∀ s a s', f s a = .ok s' → proj s' = g (proj s) a) :
    ∀ (xs : List α) (s s' : σ), xs.foldlM f s = .ok s' → proj s' = xs.foldl g (proj s)
  | [], s, s', hrun => by
    obtain rfl : s = s' := by simpa [pure, Except.pure] using hrun
    rfl
  | a :: as, s, s', hrun => by
    cases hfa : f s a with
    | error e =>
      rw [foldlM_cons_error as hfa] at hrun
      cases hrun
    | ok s₁ =>
      rw [foldlM_cons_ok as hfa] at hrun
      rw [List.foldl_cons, ← h s a s₁ hfa]
      exact foldlM_hom proj f g h as s₁ s' hrun

/-- A loop over a pair whose steps change each component on its own leaves the second
    component as the loop of its own steps does. -/
theorem foldl_pair_snd {β γ : Type*} (f : β → α → β) (g : γ → α → γ) :
    ∀ (xs : List α) (acc : β × γ),
      (xs.foldl (fun acc a => (f acc.1 a, g acc.2 a)) acc).2 = xs.foldl g acc.2
  | [], _ => rfl
  | a :: as, acc => foldl_pair_snd f g as (f acc.1 a, g acc.2 a)

/-- A loop whose every step keeps a part of the state keeps it. -/
theorem foldl_keeps {β : Type*} (proj : σ → β) (f : σ → α → σ) (h : ∀ s a, proj (f s a) = proj s) :
    ∀ (xs : List α) (s : σ), proj (xs.foldl f s) = proj s
  | [], _ => rfl
  | a :: as, s => (foldl_keeps proj f h as (f s a)).trans (h s a)

/-- A loop whose every step appends to a part of the state what the element alone decides
    ends with all the elements' parts appended, in order. -/
theorem foldl_appends {β : Type*} (proj : σ → List β) (f : σ → α → σ) (g : α → List β)
    (h : ∀ s a, proj (f s a) = proj s ++ g a) :
    ∀ (xs : List α) (s : σ), proj (xs.foldl f s) = proj s ++ xs.flatMap g
  | [], s => by simp
  | a :: as, s => by
    rw [List.foldl_cons, foldl_appends proj f g h as (f s a), h s a, List.flatMap_cons,
      List.append_assoc]

/-- A loop whose steps append only for the elements `p` selects appends what those
    elements decide. -/
theorem foldl_appends_filter {β : Type*} (proj : σ → List β) (f : σ → α → σ) (p : α → Bool)
    (g : α → List β) (h : ∀ s a, proj (f s a) = proj s ++ if p a then g a else [])
    (xs : List α) (s : σ) : proj (xs.foldl f s) = proj s ++ (xs.filter p).flatMap g := by
  rw [foldl_appends proj f _ h xs s]
  congr 1
  -- the steps of the other elements append nothing
  induction xs with
  | nil => rfl
  | cons a as ih => by_cases hp : p a <;> simp [hp, ih]

/-! ## Loops that build what a relation describes -/

section describe

variable {ρ : Type*} (D : σ → (ρ → Prop) → Prop) (g : α → ρ → Prop)

/-- What the first element adds, then what the rest add, is what all of them add. -/
theorem or_or_exists_mem (R : ρ → Prop) (a : α) (as : List α) :
    (fun r => (R r ∨ g a r) ∨ ∃ b ∈ as, g b r) = fun r => R r ∨ ∃ b ∈ a :: as, g b r := by
  funext r
  simp [or_assoc]

/-- A loop whose every step keeps a description of the state, extended by what the element
    adds to the relation described, ends described by everything the elements add. -/
theorem foldl_extends (f : σ → α → σ) (h : ∀ s a R, D s R → D (f s a) fun r => R r ∨ g a r) :
    ∀ (xs : List α) (s : σ) (R : ρ → Prop), D s R →
      D (xs.foldl f s) fun r => R r ∨ ∃ a ∈ xs, g a r
  | [], s, R, hs => by simpa using hs
  | a :: as, s, R, hs => by
    have hext := foldl_extends f h as (f s a) _ (h s a R hs)
    rwa [or_or_exists_mem] at hext

/-- `foldl_extends` for a loop that can fail, about the state it succeeds with. -/
theorem foldlM_extends (f : σ → α → Except ε σ)
    (h : ∀ s a s' R, f s a = .ok s' → D s R → D s' fun r => R r ∨ g a r) :
    ∀ (xs : List α) (s s' : σ) (R : ρ → Prop), xs.foldlM f s = .ok s' → D s R →
      D s' fun r => R r ∨ ∃ a ∈ xs, g a r
  | [], s, s', R, hrun, hs => by
    obtain rfl : s = s' := by simpa [pure, Except.pure] using hrun
    simpa using hs
  | a :: as, s, s', R, hrun, hs => by
    cases hfa : f s a with
    | error e =>
      rw [foldlM_cons_error as hfa] at hrun
      cases hrun
    | ok s₁ =>
      rw [foldlM_cons_ok as hfa] at hrun
      have hext := foldlM_extends f h as s₁ s' _ hrun (h s a s₁ R hfa hs)
      rwa [or_or_exists_mem] at hext

end describe

end ExceptLoop
