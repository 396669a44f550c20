import Mathlib.Data.List.Perm.Basic

/-
  Go's `sort.Sort` (pattern-defeating quicksort since Go 1.19).

  On at most twelve elements `pdqsort` is insertion sort: each element moves left past the
  elements it is less than, by adjacent swaps (`insertionSort`). Longer slices go through
  the rest of the algorithm, which a model takes as a parameter. Either way the slice is
  only permuted (`perm_sort`), whatever the `Less`: a comparison that is not a strict weak
  order changes which permutation comes out, never the elements.
-/

namespace GoSort

variable {α : Type*} (less : α → α → Bool)

/-- One pass of the outer loop of `insertionSort`, on the sorted prefix kept with its last
    element first: the new element moves left while it is less than its left neighbour. -/
def sinkLeft (x : α) : List α → List α
  | [] => [x]
  | y :: ys => if less x y then y :: sinkLeft x ys else x :: y :: ys

/-- `insertionSort`. -/
def insertionSort (xs : List α) : List α :=
  (xs.foldl (fun rev x => sinkLeft less x rev) []).reverse

/-- `sort.Sort`: insertion sort on at most twelve elements (`maxInsertion`), the rest of
    `pdqsort` on longer slices. -/
def sort (pdqsort : List α → List α) (xs : List α) : List α :=
  if xs.length ≤ 12 then insertionSort less xs else pdqsort xs

theorem sinkLeft_cons (x y : α) (ys : List α) :
    sinkLeft less x (y :: ys) = if less x y then y :: sinkLeft less x ys else x :: y :: ys := rfl

/-- An element less than none of the prefix stays where it is. -/
theorem sinkLeft_of_forall {x : α} : ∀ {ys : List α}, (∀ y ∈ ys, less x y = false) →
    sinkLeft less x ys = x :: ys
  | [], _ => rfl
  | y :: ys, h => by rw [sinkLeft_cons, h y List.mem_cons_self, if_neg Bool.false_ne_true]

theorem perm_sinkLeft (x : α) : ∀ ys : List α, (sinkLeft less x ys).Perm (x :: ys)
  | [] => .refl _
  | y :: ys => by
    unfold sinkLeft
    split
    · exact ((perm_sinkLeft x ys).cons y).trans (.swap x y ys)
    · exact .refl _

theorem perm_insertionSort (xs : List α) : (insertionSort less xs).Perm xs := by
  -- the loop keeps the prefix seen so far, reversed, before what it started from
  have hloop : ∀ (xs acc : List α),
      (xs.foldl (fun rev x => sinkLeft less x rev) acc).Perm (xs.reverse ++ acc) := by
    intro xs
    induction xs with
    | nil => intro acc; exact .refl _
    | cons x xs ih =>
      intro acc
      rw [List.foldl_cons, List.reverse_cons, List.append_assoc]
      exact (ih _).trans ((perm_sinkLeft less x acc).append_left _)
  have hrev : (xs.reverse ++ []).Perm xs := by simp
  unfold insertionSort
  exact (List.reverse_perm _).trans ((hloop xs []).trans hrev)

/-- `sort.Sort` only permutes the slice, when the rest of `pdqsort` does. -/
theorem perm_sort {pdqsort : List α → List α} (hpdq : ∀ xs, (pdqsort xs).Perm xs) (xs : List α) :
    (sort less pdqsort xs).Perm xs := by
  unfold sort
  split
  · exact perm_insertionSort less xs
  · exact hpdq xs

/-- Two elements change places exactly when the second is less than the first. -/
theorem insertionSort_pair (x y : α) :
    insertionSort less [x, y] = if less y x then [y, x] else [x, y] := by
  show (sinkLeft less y [x]).reverse = _
  rw [sinkLeft_cons]
  cases less y x
  · rfl
  · rfl

/-! ## Incomparable elements

Insertion sort compares only neighbours. An element that no later element is less than
stops every later element from sinking past it, and one that is less than no earlier element
stays behind them: the two sides are sorted apart, however they compare with each other. -/

/-- An element not less than `c` sinks no further than `c`. -/
theorem sinkLeft_append_cons {x c : α} (hx : less x c = false) (R : List α) :
    ∀ acc : List α, sinkLeft less x (acc ++ c :: R) = sinkLeft less x acc ++ c :: R
  | [] => by rw [List.nil_append, sinkLeft_cons, hx, if_neg Bool.false_ne_true]; rfl
  | y :: acc => by
    rw [List.cons_append, sinkLeft_cons, sinkLeft_cons, sinkLeft_append_cons hx R acc]
    cases less x y
    · rfl
    · rfl

/-- The loop over elements none of which is less than `c` leaves `c` and what lies behind
    it alone. -/
theorem foldl_sinkLeft_append_cons {c : α} (R : List α) :
    ∀ (ys acc : List α), (∀ y ∈ ys, less y c = false) →
      ys.foldl (fun rev x => sinkLeft less x rev) (acc ++ c :: R) =
        ys.foldl (fun rev x => sinkLeft less x rev) acc ++ c :: R
  | [], _, _ => rfl
  | y :: ys, acc, hys => by
    rw [List.foldl_cons, List.foldl_cons, sinkLeft_append_cons less (hys y List.mem_cons_self)]
    exact foldl_sinkLeft_append_cons R ys _ fun z hz => hys z (List.mem_cons_of_mem y hz)

/-- An element less than none before it, with nothing after it less than it, stays between
    the two sides, each sorted on its own. -/
theorem insertionSort_append_cons_of_incomparable {xs ys : List α} {c : α}
    (hc : ∀ x ∈ xs, less c x = false) (hys : ∀ y ∈ ys, less y c = false) :
    insertionSort less (xs ++ c :: ys) = insertionSort less xs ++ c :: insertionSort less ys := by
  -- the reversed prefix the loop has built once it reaches `c`
  have hprefix : ∀ y ∈ xs.foldl (fun rev x => sinkLeft less x rev) [], less c y = false := by
    intro y hy
    have hsorted : y ∈ insertionSort less xs := by rw [insertionSort, List.mem_reverse]; exact hy
    exact hc y ((perm_insertionSort less xs).subset hsorted)
  have hrest := foldl_sinkLeft_append_cons less (xs.foldl (fun rev x => sinkLeft less x rev) [])
    ys [] hys
  rw [List.nil_append] at hrest
  rw [insertionSort, List.foldl_append, List.foldl_cons, sinkLeft_of_forall less hprefix, hrest,
    insertionSort, insertionSort]
  simp

end GoSort
