import Mathlib.Logic.Function.Basic
import Mathlib.Data.List.Basic

/-
  Rule tables in the style of netfilter's `iptables`, as `iptables-restore` loads them and
  the kernel walks them.

  A table is a family of chains, a chain a list of rules, a rule a match and a target.
  `-A` appends a rule to a chain and `-I` (without a position) inserts it at the head. A
  packet walks a chain from the top and the first rule whose match it satisfies acts: a
  terminal target (`ACCEPT`, `REDIRECT`, `DNAT`, ...) ends the walk of the whole table with
  that verdict, `RETURN` leaves the current chain, and a jump walks the named chain and then,
  unless that chain gave a verdict, goes on with the next rule. A walk that leaves a
  built-in chain without a verdict falls to the chain's policy.

  Matches are a parameter (`sat`), so that nothing here depends on which match extensions
  a rule set uses. What the kernel documents is stated as a law on the outcome of each chain
  (`Walks`): a chain's outcome is the walk of its rules, a jump taking the outcome of the
  chain it names. Results about a rule set are stated for any outcome that obeys the law.
  `walk` computes one, with nested jumps bounded by fuel: the kernel refuses tables with jump
  loops, and the depth of nesting is the fuel a walk needs. More fuel never changes an
  outcome (`walk_mono`), a walk that finishes everywhere obeys the law (`walks_walk`), and
  every outcome that obeys it agrees with each walk that finishes (`eq_walk_of_walks`).
-/

namespace Netfilter

/-- What a rule does with a packet its match accepts. -/
inductive Target (χ τ : Type*) where
  /-- `-j RETURN`: leave the current chain. -/
  | ret
  /-- A terminal target: the table's verdict on the packet. -/
  | verdict (t : τ)
  /-- `-j CHAIN`: walk a user chain, then go on unless it gave a verdict. -/
  | jump (c : χ)
  deriving DecidableEq

/-- A rule: a match and a target. -/
structure Rule (χ μ τ : Type*) where
  m : μ
  target : Target χ τ
  deriving DecidableEq

/-- One rule line of an `iptables-restore` input. -/
inductive Command (χ μ τ : Type*) where
  /-- `-A chain rule`. -/
  | append (c : χ) (r : Rule χ μ τ)
  /-- `-I chain rule`: insert at the head of the chain. -/
  | insert (c : χ) (r : Rule χ μ τ)
  deriving DecidableEq

/-- The rule a command adds. -/
def Command.rule {χ μ τ : Type*} : Command χ μ τ → Rule χ μ τ
  | .append _ r | .insert _ r => r

/-- A table: the rules of every chain, in order. -/
abbrev Table (χ μ τ : Type*) := χ → List (Rule χ μ τ)

variable {χ μ τ π : Type*}

/-! ## Loading a table -/

section load

variable [DecidableEq χ]

/-- One command. -/
def exec (t : Table χ μ τ) : Command χ μ τ → Table χ μ τ
  | .append c r => Function.update t c (t c ++ [r])
  | .insert c r => Function.update t c (r :: t c)

/-- The table a list of commands builds from empty chains. -/
def build (cmds : List (Command χ μ τ)) : Table χ μ τ :=
  cmds.foldl exec fun _ => []

/-- The rules the commands insert at the head of `c`, in command order. -/
def inserted (c : χ) : List (Command χ μ τ) → List (Rule χ μ τ)
  | [] => []
  | .insert c' r :: cmds => if c' = c then r :: inserted c cmds else inserted c cmds
  | .append _ _ :: cmds => inserted c cmds

/-- The rules the commands append to `c`, in command order. -/
def appended (c : χ) : List (Command χ μ τ) → List (Rule χ μ τ)
  | [] => []
  | .append c' r :: cmds => if c' = c then r :: appended c cmds else appended c cmds
  | .insert _ _ :: cmds => appended c cmds

@[simp] theorem inserted_nil (c : χ) : inserted c ([] : List (Command χ μ τ)) = [] := rfl
@[simp] theorem appended_nil (c : χ) : appended c ([] : List (Command χ μ τ)) = [] := rfl

section cons

variable (c c' : χ) (r : Rule χ μ τ) (cmds : List (Command χ μ τ))

theorem inserted_cons_insert :
    inserted c (.insert c' r :: cmds) = if c' = c then r :: inserted c cmds else inserted c cmds :=
  rfl
theorem inserted_cons_append : inserted c (.append c' r :: cmds) = inserted c cmds := rfl
theorem appended_cons_append :
    appended c (.append c' r :: cmds) = if c' = c then r :: appended c cmds else appended c cmds :=
  rfl
theorem appended_cons_insert : appended c (.insert c' r :: cmds) = appended c cmds := rfl

end cons

@[simp] theorem inserted_append (c : χ) (cs ds : List (Command χ μ τ)) :
    inserted c (cs ++ ds) = inserted c cs ++ inserted c ds := by
  induction cs with
  | nil => rfl
  | cons cmd cs ih =>
    cases cmd with
    | append c' r => simp [inserted_cons_append, ih]
    | insert c' r => by_cases h : c' = c <;> simp [inserted_cons_insert, h, ih]

@[simp] theorem appended_append (c : χ) (cs ds : List (Command χ μ τ)) :
    appended c (cs ++ ds) = appended c cs ++ appended c ds := by
  induction cs with
  | nil => rfl
  | cons cmd cs ih =>
    cases cmd with
    | insert c' r => simp [appended_cons_insert, ih]
    | append c' r => by_cases h : c' = c <;> simp [appended_cons_append, h, ih]

section map

variable {α : Type*} (c c' : χ) (f : α → Rule χ μ τ) (xs : List α)

@[simp] theorem appended_map_append :
    appended c (xs.map fun x => Command.append c' (f x)) = if c' = c then xs.map f else [] := by
  induction xs with
  | nil => split <;> rfl
  | cons x xs ih => by_cases h : c' = c <;> simp_all [appended_cons_append]

@[simp] theorem inserted_map_append :
    inserted c (xs.map fun x => Command.append c' (f x)) = [] := by
  induction xs with
  | nil => rfl
  | cons x xs ih => simpa [inserted_cons_append] using ih

@[simp] theorem inserted_map_insert :
    inserted c (xs.map fun x => Command.insert c' (f x)) = if c' = c then xs.map f else [] := by
  induction xs with
  | nil => split <;> rfl
  | cons x xs ih => by_cases h : c' = c <;> simp_all [inserted_cons_insert]

@[simp] theorem appended_map_insert :
    appended c (xs.map fun x => Command.insert c' (f x)) = [] := by
  induction xs with
  | nil => rfl
  | cons x xs ih => simpa [appended_cons_insert] using ih

end map

/-- The chain `c` after the commands: what they insert, last first, then what was there,
    then what they append. -/
theorem foldl_exec_apply (c : χ) :
    ∀ (cmds : List (Command χ μ τ)) (t : Table χ μ τ),
      cmds.foldl exec t c = (inserted c cmds).reverse ++ t c ++ appended c cmds := by
  intro cmds
  induction cmds with
  | nil => intro t; simp
  | cons cmd cmds ih =>
    intro t
    rw [List.foldl_cons, ih]
    cases cmd with
    | append c' r =>
      by_cases h : c' = c
      · subst h; simp [exec, inserted_cons_append, appended_cons_append]
      · simp [exec, inserted_cons_append, appended_cons_append, h, Function.update_of_ne (Ne.symm h)]
    | insert c' r =>
      by_cases h : c' = c
      · subst h; simp [exec, inserted_cons_insert, appended_cons_insert]
      · simp [exec, inserted_cons_insert, appended_cons_insert, h,
          Function.update_of_ne (Ne.symm h)]

theorem build_apply (cmds : List (Command χ μ τ)) (c : χ) :
    build cmds c = (inserted c cmds).reverse ++ appended c cmds := by
  simp [build, foldl_exec_apply]

end load

/-! ## Walking a table -/

/-- The outcome of walking part of a chain: no rule acted (`next`), a `RETURN` rule matched
    (`ret`), a terminal target gave a verdict, or the walk ran out of fuel. -/
inductive Outcome (τ : Type*) where
  | next
  | ret
  | decided (t : τ)
  | outOfFuel
  deriving DecidableEq

/-- The walk of a chain that is two parts one after the other: the second part is walked
    only when the first lets the packet through. -/
def Outcome.andThen : Outcome τ → Outcome τ → Outcome τ
  | .next, o => o
  | o, _ => o

@[simp] theorem Outcome.next_andThen (o : Outcome τ) : Outcome.next.andThen o = o := rfl
@[simp] theorem Outcome.andThen_next (o : Outcome τ) : o.andThen .next = o := by
  cases o <;> rfl
@[simp] theorem Outcome.ret_andThen (o : Outcome τ) : Outcome.ret.andThen o = .ret := rfl
@[simp] theorem Outcome.decided_andThen (t : τ) (o : Outcome τ) :
    (Outcome.decided t).andThen o = .decided t := rfl
@[simp] theorem Outcome.ite_andThen (b : Prop) [Decidable b] (o₁ o₂ o : Outcome τ) :
    (if b then o₁ else o₂).andThen o = if b then o₁.andThen o else o₂.andThen o := by
  split <;> rfl

theorem Outcome.andThen_assoc (o₁ o₂ o₃ : Outcome τ) :
    (o₁.andThen o₂).andThen o₃ = o₁.andThen (o₂.andThen o₃) := by
  cases o₁ <;> rfl

/-- What the outcome of a chain means to the rule that jumped to it: a `RETURN` from the chain
    is the same as reaching its end. -/
def Outcome.resume : Outcome τ → Outcome τ
  | .ret => .next
  | o => o

@[simp] theorem Outcome.resume_next : (Outcome.next : Outcome τ).resume = .next := rfl
@[simp] theorem Outcome.resume_ret : (Outcome.ret : Outcome τ).resume = .next := rfl
@[simp] theorem Outcome.resume_decided (t : τ) : (Outcome.decided t).resume = .decided t := rfl
@[simp] theorem Outcome.resume_ite (b : Prop) [Decidable b] (o₁ o₂ : Outcome τ) :
    (if b then o₁ else o₂).resume = if b then o₁.resume else o₂.resume := by
  split <;> rfl

section walk

variable (sat : μ → π → Bool) (p : π)

/-- The walk of a list of rules, with `call` the outcome of walking each chain jumped to. -/
def walkRules (call : χ → Outcome τ) : List (Rule χ μ τ) → Outcome τ
  | [] => .next
  | r :: rs =>
    if sat r.m p then
      match r.target with
      | .ret => .ret
      | .verdict t => .decided t
      | .jump c =>
        match call c with
        | .next | .ret => walkRules call rs
        | o => o
    else walkRules call rs

/-- The walk of chain `c`, allowing `n` chains to be entered (this one included). -/
def walk (t : Table χ μ τ) : Nat → χ → Outcome τ
  | 0, _ => .outOfFuel
  | n + 1, c => walkRules sat p (walk t n) (t c)

/-- The kernel's semantics of a table, as a law on the outcome `eval c` of a packet entering
    each chain `c`: the chain's rules are walked, each jump taking the outcome of the chain it
    names. -/
def Walks (t : Table χ μ τ) (eval : χ → Outcome τ) : Prop :=
  ∀ c, eval c = walkRules sat p eval (t c)

variable {sat p}

@[simp] theorem walkRules_nil (call : χ → Outcome τ) :
    walkRules sat p call ([] : List (Rule χ μ τ)) = .next := rfl

theorem walkRules_cons_of_not_sat (call : χ → Outcome τ) (r : Rule χ μ τ)
    (h : sat r.m p = false) (rs : List (Rule χ μ τ)) :
    walkRules sat p call (r :: rs) = walkRules sat p call rs := by
  show (if sat r.m p then _ else _) = _
  rw [h, if_neg Bool.false_ne_true]

theorem walkRules_cons_ret_ite (call : χ → Outcome τ) (m : μ) (rs : List (Rule χ μ τ)) :
    walkRules sat p call (⟨m, .ret⟩ :: rs) = if sat m p then .ret else walkRules sat p call rs :=
  rfl

theorem walkRules_cons_verdict_ite (call : χ → Outcome τ) (m : μ) (v : τ)
    (rs : List (Rule χ μ τ)) :
    walkRules sat p call (⟨m, .verdict v⟩ :: rs) =
      if sat m p then .decided v else walkRules sat p call rs :=
  rfl

section sat

variable (call : χ → Outcome τ) {m : μ} (h : sat m p = true) (rs : List (Rule χ μ τ))
include h

theorem walkRules_cons_ret : walkRules sat p call (⟨m, .ret⟩ :: rs) = .ret := by
  show (if sat m p then _ else _) = _
  rw [if_pos h]

theorem walkRules_cons_verdict (v : τ) :
    walkRules sat p call (⟨m, .verdict v⟩ :: rs) = .decided v := by
  show (if sat m p then _ else _) = _
  rw [if_pos h]

/-- A matched jump goes on with the next rule unless the chain jumped to gave a verdict. -/
theorem walkRules_cons_jump (c : χ) :
    walkRules sat p call (⟨m, .jump c⟩ :: rs) = (call c).resume.andThen (walkRules sat p call rs) := by
  show (if sat m p then _ else _) = _
  rw [if_pos h]
  show (match call c with
    | .next | .ret => walkRules sat p call rs
    | o => o) = _
  cases call c <;> rfl

end sat

/-- A matched jump whose chain decides decides the walk. -/
theorem walkRules_cons_jump_of_decided (call : χ → Outcome τ) {m : μ} {c : χ}
    (h : sat m p = true) {v : τ} (hc : call c = .decided v) (rs : List (Rule χ μ τ)) :
    walkRules sat p call (⟨m, .jump c⟩ :: rs) = .decided v := by
  rw [walkRules_cons_jump call h, hc]
  rfl

theorem walkRules_append (call : χ → Outcome τ) (rs₁ rs₂ : List (Rule χ μ τ)) :
    walkRules sat p call (rs₁ ++ rs₂) =
      (walkRules sat p call rs₁).andThen (walkRules sat p call rs₂) := by
  induction rs₁ with
  | nil => rfl
  | cons r rs ih =>
    obtain ⟨m, target⟩ := r
    rw [List.cons_append]
    cases hs : sat m p with
    | false => rw [walkRules_cons_of_not_sat call _ hs, walkRules_cons_of_not_sat call _ hs, ih]
    | true =>
      cases target with
      | ret => rw [walkRules_cons_ret call hs, walkRules_cons_ret call hs, Outcome.ret_andThen]
      | verdict v =>
        rw [walkRules_cons_verdict call hs, walkRules_cons_verdict call hs,
          Outcome.decided_andThen]
      | jump c =>
        -- the outcome of the chain jumped to decides whether the walk goes on
        rw [walkRules_cons_jump call hs, walkRules_cons_jump call hs, ih, Outcome.andThen_assoc]

/-- A block of `RETURN` rules returns iff one of their matches accepts the packet. -/
theorem walkRules_returns {α : Type*} (call : χ → Outcome τ) (f : α → μ) (xs : List α) :
    walkRules sat p call (xs.map fun x => ⟨f x, .ret⟩) =
      if xs.any (fun x => sat (f x) p) then .ret else .next := by
  induction xs with
  | nil => rfl
  | cons x xs ih =>
    by_cases h : sat (f x) p = true
    · simp [walkRules_cons_ret call h, h]
    · simp only [Bool.not_eq_true] at h
      rw [List.map_cons, walkRules_cons_of_not_sat call ⟨f x, .ret⟩ h, ih]
      simp [h]

/-- A block of jumps to a chain that decides `v` decides `v` iff one of their matches accepts
    the packet. -/
theorem walkRules_jumps {α : Type*} (call : χ → Outcome τ) (f : α → μ) (xs : List α) {c : χ}
    {v : τ} (hc : call c = .decided v) :
    walkRules sat p call (xs.map fun x => ⟨f x, .jump c⟩) =
      if xs.any (fun x => sat (f x) p) then .decided v else .next := by
  induction xs with
  | nil => rfl
  | cons x xs ih =>
    by_cases h : sat (f x) p = true
    · simp [walkRules_cons_jump_of_decided call h hc, h]
    · simp only [Bool.not_eq_true] at h
      rw [List.map_cons, walkRules_cons_of_not_sat call ⟨f x, .jump c⟩ h, ih]
      simp [h]

/-! ### Fuel -/

/-- More fuel for the chains jumped to changes no outcome that did not run out of it. -/
theorem walkRules_mono {call call' : χ → Outcome τ}
    (hcall : ∀ c, call c ≠ .outOfFuel → call' c = call c) :
    ∀ rs : List (Rule χ μ τ), walkRules sat p call rs ≠ .outOfFuel →
      walkRules sat p call' rs = walkRules sat p call rs := by
  intro rs
  induction rs with
  | nil => intro _; rfl
  | cons r rs ih =>
    intro h
    obtain ⟨m, target⟩ := r
    cases hs : sat m p with
    | false =>
      rw [walkRules_cons_of_not_sat call _ hs] at h
      rw [walkRules_cons_of_not_sat call' _ hs, walkRules_cons_of_not_sat call _ hs]
      exact ih h
    | true =>
      cases target with
      | ret => rw [walkRules_cons_ret call' hs, walkRules_cons_ret call hs]
      | verdict v => rw [walkRules_cons_verdict call' hs, walkRules_cons_verdict call hs]
      | jump c =>
        rw [walkRules_cons_jump call hs] at h
        rw [walkRules_cons_jump call' hs, walkRules_cons_jump call hs]
        -- the chain jumped to did not run out of fuel, so it has the same outcome
        have hne : call c ≠ .outOfFuel := by
          intro hout
          rw [hout] at h
          exact h rfl
        rw [hcall c hne]
        cases hcc : call c with
        | next | ret =>
          rw [hcc] at h
          exact congrArg _ (ih h)
        | decided v | outOfFuel => rfl

theorem walk_mono (t : Table χ μ τ) (n : Nat) :
    ∀ (k : Nat) (c : χ), walk sat p t n c ≠ .outOfFuel →
      walk sat p t (n + k) c = walk sat p t n c := by
  induction n with
  | zero => intro _ _ h; exact absurd rfl h
  | succ n ih =>
    intro k c h
    rw [show n + 1 + k = (n + k) + 1 by omega]
    exact walkRules_mono (fun c' hc' => ih k c' hc') (t c) h

/-- A walk that finishes in every chain obeys the law. -/
theorem walks_walk {t : Table χ μ τ} {n : Nat} (h : ∀ c, walk sat p t n c ≠ .outOfFuel) :
    Walks sat p t (walk sat p t n) :=
  fun c => (walk_mono t n 1 c (h c)).symm

/-- Every outcome that obeys the law is the outcome of each walk that finishes: the law has
    one solution on the chains a finite walk settles. By induction on the fuel, with
    `walkRules_mono` comparing the law's jumps with the walk's. -/
theorem eq_walk_of_walks {t : Table χ μ τ} {eval : χ → Outcome τ} (h : Walks sat p t eval) :
    ∀ n c, walk sat p t n c ≠ .outOfFuel → eval c = walk sat p t n c := by
  intro n
  induction n with
  | zero => intro c hc; exact absurd rfl hc
  | succ n ih =>
    intro c hc
    rw [h c]
    exact walkRules_mono ih (t c) hc

/-- Once one walk finishes with outcome `o`, every outcome that obeys the law is `o`. -/
theorem eq_of_walks_of_walk {t : Table χ μ τ} {eval : χ → Outcome τ} (h : Walks sat p t eval)
    {n : Nat} {c : χ} {o : Outcome τ} (hw : walk sat p t n c = o) (ho : o ≠ .outOfFuel) :
    eval c = o := by
  rw [← hw]
  exact eq_walk_of_walks h n c (by rwa [hw])

end walk

end Netfilter
