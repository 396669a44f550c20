import Mathlib.Data.List.Sort
import Mathlib.Order.Basic
import Mathlib.Data.Finset.Basic
import Mathlib.Algebra.BigOperators.Group.Finset.Defs

/-
  Finite sets that the program iterates in an order it does not choose.

  A Go set backed by a map (`mapset.Set`, `map[K]struct{}`) hands out its elements in an
  order the runtime picks afresh on every range loop. A function that iterates such a set is
  modelled with the order as an argument: an `Enumerator` lists every finite set, each
  element once. Results that hold for every `Enumerator` hold whatever order the runtime
  picks; two `Enumerator`s that disagree on one set show that an output depends on it.

  `Enumerator.sortedBy key` lists a set along an injective key into a linear order; it
  computes, so that concrete runs can be evaluated, with an order and with its opposite.

  `collectNew` is the other common use of a set: a slice that receives each element the
  first time `Add` reports it new.
-/

namespace GoSet

/-- An iteration order for finite sets: for every set, a list of its elements, each once. -/
structure Enumerator (α : Type*) where
  enum : Finset α → List α
  nodup : ∀ s, (enum s).Nodup
  mem_enum : ∀ s a, a ∈ enum s ↔ a ∈ s

namespace Enumerator

variable {α : Type*}

@[simp] theorem mem_enum_iff (E : Enumerator α) {s : Finset α} {a : α} : a ∈ E.enum s ↔ a ∈ s :=
  E.mem_enum s a

theorem toFinset_enum [DecidableEq α] (E : Enumerator α) (s : Finset α) :
    (E.enum s).toFinset = s := by
  ext a
  simp

@[simp] theorem enum_empty (E : Enumerator α) : E.enum ∅ = [] :=
  List.eq_nil_iff_forall_not_mem.mpr fun a h => by simp at h

/-- A set of one element is listed as that element, in any order. -/
theorem enum_singleton [DecidableEq α] (E : Enumerator α) (a : α) : E.enum {a} = [a] :=
  List.perm_singleton.mp ((List.perm_ext_iff_of_nodup (E.nodup {a}) (List.nodup_singleton a)).2
    fun b => by simp)

/-- An iteration order lists the set's elements, each once: as a multiset, the set. -/
theorem coe_enum (E : Enumerator α) (s : Finset α) : ((E.enum s : List α) : Multiset α) = s.val :=
  (Multiset.Nodup.ext (Multiset.coe_nodup.mpr (E.nodup s)) s.nodup).mpr fun a => by simp

/-- A sum in any iteration order is the sum over the set. -/
theorem sum_map_enum {M : Type*} [AddCommMonoid M] (E : Enumerator α) (s : Finset α)
    (f : α → M) : ((E.enum s).map f).sum = ∑ a ∈ s, f a := by
  rw [← Finset.sum_map_val, ← coe_enum E s, Multiset.map_coe, Multiset.sum_coe]

/-- Two iteration orders of one set list the same elements. -/
theorem enum_perm (E₁ E₂ : Enumerator α) (s : Finset α) : (E₁.enum s).Perm (E₂.enum s) :=
  (List.perm_ext_iff_of_nodup (E₁.nodup s) (E₂.nodup s)).2 (fun a => by simp)

section sortedBy

variable {β : Type*} [LinearOrder β] (key : α → β)

/-- Comparing by an injective key into a linear order. -/
def keyLE (a b : α) : Prop := key a ≤ key b

instance : DecidableRel (keyLE key) := fun a b => inferInstanceAs (Decidable (key a ≤ key b))

instance : Std.Total (keyLE key) := ⟨fun a b => le_total (key a) (key b)⟩

instance : IsTrans α (keyLE key) := ⟨fun _ _ _ h₁ h₂ => le_trans h₁ h₂⟩

/-- Iteration in the order of an injective key: the elements sorted by insertion. The
    sorted list of a multiset does not depend on the list that represents it. -/
def sortedBy (hkey : Function.Injective key) : Enumerator α :=
  have : Std.Antisymm (keyLE key) := ⟨fun _ _ h₁ h₂ => hkey (le_antisymm h₁ h₂)⟩
  { enum := fun s => Quot.liftOn s.val (fun l => l.insertionSort (keyLE key)) (by
      intro a b h
      exact List.Perm.eq_of_pairwise' (List.pairwise_insertionSort (keyLE key) a)
        (List.pairwise_insertionSort (keyLE key) b)
        ((List.perm_insertionSort (keyLE key) a).trans
          (h.trans (List.perm_insertionSort (keyLE key) b).symm)))
    nodup := fun s => by
      rcases s with ⟨⟨l⟩, hl⟩
      exact (List.perm_insertionSort (keyLE key) l).nodup_iff.2 hl
    mem_enum := fun s a => by
      rcases s with ⟨⟨l⟩, hl⟩
      exact (List.perm_insertionSort (keyLE key) l).mem_iff }

end sortedBy

end Enumerator

/-! ## Collecting distinct elements -/

section collect

variable {α : Type*} [DecidableEq α]

/-- One step of `if set.Add(x) { out = append(out, x) }`, where the set holds what `out`
    holds. -/
def addNew (out : List α) (x : α) : List α :=
  if x ∈ out then out else out ++ [x]

/-- The loop of `addNew` over `xs` from an empty set and slice: the elements of `xs` in
    order, each at its first occurrence. -/
def collectNew (xs : List α) : List α := xs.foldl addNew []

theorem mem_foldl_addNew {x : α} :
    ∀ (xs out : List α), x ∈ xs.foldl addNew out ↔ x ∈ out ∨ x ∈ xs := by
  intro xs
  induction xs with
  | nil => intro out; simp
  | cons y ys ih =>
    intro out
    rw [List.foldl_cons, ih]
    by_cases hy : y ∈ out
    · simp only [addNew, hy, if_true, List.mem_cons]
      constructor
      · rintro (h | h) <;> simp [h]
      · rintro (h | rfl | h) <;> simp [*]
    · simp [addNew, hy, or_assoc]

theorem nodup_foldl_addNew : ∀ (xs out : List α), out.Nodup → (xs.foldl addNew out).Nodup := by
  intro xs
  induction xs with
  | nil => intro out h; exact h
  | cons y ys ih =>
    intro out h
    apply ih
    by_cases hy : y ∈ out
    · simpa [addNew, hy] using h
    · simp only [addNew, hy, if_false, List.nodup_append, List.nodup_singleton]
      refine ⟨h, trivial, ?_⟩
      intro a ha b hb
      rw [List.mem_singleton] at hb
      subst hb
      exact fun hab => hy (hab ▸ ha)

@[simp] theorem mem_collectNew {x : α} {xs : List α} : x ∈ collectNew xs ↔ x ∈ xs := by
  simp [collectNew, mem_foldl_addNew]

theorem nodup_collectNew (xs : List α) : (collectNew xs).Nodup :=
  nodup_foldl_addNew xs [] List.nodup_nil

/-- What is already in the slice stays at the front; the loop then collects, after it, the
    elements it does not hold. -/
theorem foldl_addNew_append (out : List α) :
    ∀ (xs mid : List α), xs.foldl addNew (out ++ mid) = out ++ (xs.filter (· ∉ out)).foldl addNew mid
  | [], _ => rfl
  | y :: ys, mid => by
    rw [List.foldl_cons, List.filter_cons]
    by_cases hout : y ∈ out
    · -- `y` is at the front already
      have hstay : addNew (out ++ mid) y = out ++ mid := by simp [addNew, hout]
      rw [hstay, foldl_addNew_append out ys mid]
      simp [hout]
    · have hstep : addNew (out ++ mid) y = out ++ addNew mid y := by
        by_cases hmid : y ∈ mid <;> simp [addNew, hout, hmid]
      rw [hstep, foldl_addNew_append out ys (addNew mid y)]
      simp [hout]

/-- The loop from a slice `out` appends the elements new to it, each at its first
    occurrence. -/
theorem foldl_addNew_eq (out xs : List α) :
    xs.foldl addNew out = out ++ collectNew (xs.filter (· ∉ out)) := by
  have h := foldl_addNew_append out xs []
  rwa [List.append_nil] at h

/-- `collectNew` is the order-preserving de-duplication of the core library: the first
    element, then the rest without its copies, de-duplicated. -/
theorem collectNew_eq_eraseDups : ∀ xs : List α, collectNew xs = xs.eraseDups
  | [] => rfl
  | x :: xs => by
    have hpred : (fun b => decide (b ∉ [x])) = fun b => !b == x := by
      funext b
      simp only [List.mem_singleton, decide_not]
      rfl
    have hfirst : collectNew (x :: xs) = x :: collectNew (xs.filter fun b => !b == x) := by
      rw [collectNew, List.foldl_cons, foldl_addNew_eq, ← hpred]
      simp [addNew]
    rw [hfirst, List.eraseDups_cons, collectNew_eq_eraseDups (xs.filter fun b => !b == x)]
termination_by xs => xs.length
decreasing_by exact Nat.lt_succ_of_le (List.length_filter_le _ _)

end collect

end GoSet
