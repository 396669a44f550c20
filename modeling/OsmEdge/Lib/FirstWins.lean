import Mathlib.Data.List.Basic

/-
  A list kept as a table with one entry per key, where the first entry of a key wins: an
  entry whose key is already there is dropped (`addNew`). Folding entries in this way
  (`firstByKey`) keeps the first entry of every key, the keys in the order they first occur:
  the result is a sublist of the entries with distinct keys, and looking a key up in it finds
  what looking it up in the entries finds (`firstByKey_spec`). These three facts determine
  the result.
-/

namespace FirstWins

variable {α κ : Type*} [DecidableEq κ] (key : α → κ)

/-- Append an entry unless there is one of its key. -/
def addNew (acc : List α) (x : α) : List α :=
  if acc.any (fun y => key y = key x) then acc else acc ++ [x]

/-- The first entry of every key, in the order the keys first occur. -/
def firstByKey (l : List α) : List α :=
  l.foldl (addNew key) []

variable {key}

theorem addNew_of_exists {acc : List α} {x : α} (h : ∃ y ∈ acc, key y = key x) :
    addNew key acc x = acc := by
  simp [addNew, h]

theorem addNew_of_forall_ne {acc : List α} {x : α} (h : ∀ y ∈ acc, key y ≠ key x) :
    addNew key acc x = acc ++ [x] := by
  have hnone : acc.any (fun y => key y = key x) = false := by simpa using h
  simp [addNew, hnone]

variable (key) in
theorem addNew_cases (acc : List α) (x : α) :
    ((∃ y ∈ acc, key y = key x) ∧ addNew key acc x = acc) ∨
      ((∀ y ∈ acc, key y ≠ key x) ∧ addNew key acc x = acc ++ [x]) := by
  by_cases h : ∃ y ∈ acc, key y = key x
  · exact .inl ⟨h, addNew_of_exists h⟩
  · simp only [not_exists, not_and] at h
    exact .inr ⟨h, addNew_of_forall_ne h⟩

variable (key) in
/-- A fold appends to what it starts from a sublist of what it folds. -/
theorem foldl_addNew_append (acc l : List α) :
    ∃ rest, rest.Sublist l ∧ l.foldl (addNew key) acc = acc ++ rest := by
  induction l generalizing acc with
  | nil => exact ⟨[], .slnil, by simp⟩
  | cons x l ih =>
    obtain ⟨rest, hsub, heq⟩ := ih (addNew key acc x)
    rcases addNew_cases key acc x with ⟨-, hx⟩ | ⟨-, hx⟩
    · exact ⟨rest, hsub.cons x, by rw [List.foldl_cons, heq, hx]⟩
    · exact ⟨x :: rest, hsub.cons_cons x, by rw [List.foldl_cons, heq, hx]; simp⟩

theorem nodup_addNew {acc : List α} (h : (acc.map key).Nodup) (x : α) :
    ((addNew key acc x).map key).Nodup := by
  rcases addNew_cases key acc x with ⟨-, hx⟩ | ⟨hne, hx⟩
  · rwa [hx]
  · rw [hx, List.map_append, List.nodup_append]
    refine ⟨h, by simp, ?_⟩
    simp only [List.mem_map, List.map_cons, List.map_nil, List.mem_singleton]
    rintro _ ⟨y, hy, rfl⟩ _ rfl
    exact hne y hy

/-- The keys stay distinct along a fold. -/
theorem nodup_foldl_addNew {acc : List α} (h : (acc.map key).Nodup) (l : List α) :
    ((l.foldl (addNew key) acc).map key).Nodup := by
  induction l generalizing acc with
  | nil => exact h
  | cons x l ih => exact ih (nodup_addNew h x)

/-- One step of the fold finds, for every key, what the entries it has seen find. -/
theorem find?_addNew_append (acc : List α) (x : α) (l : List α) (k : κ) :
    (addNew key acc x ++ l).find? (key · = k) = (acc ++ x :: l).find? (key · = k) := by
  rcases addNew_cases key acc x with ⟨⟨y, hy, hyx⟩, hx⟩ | ⟨-, hx⟩
  · rw [hx, List.find?_append, List.find?_append]
    -- the dropped entry is found only past an entry of its key, which is found first
    by_cases hk : key x = k
    · have hfound : (acc.find? (key · = k)).isSome := by
        rw [List.find?_isSome]
        exact ⟨y, hy, by simp [hyx, hk]⟩
      obtain ⟨z, hz⟩ := Option.isSome_iff_exists.mp hfound
      simp [hz]
    · simp [hk]
  · rw [hx]
    simp

theorem find?_foldl_addNew (acc l : List α) (k : κ) :
    (l.foldl (addNew key) acc).find? (key · = k) = (acc ++ l).find? (key · = k) := by
  induction l generalizing acc with
  | nil => simp
  | cons x l ih =>
    have h := ih (addNew key acc x)
    rw [List.foldl_cons, h, ← find?_addNew_append acc x l k]

variable (key) in
/-- `firstByKey` keeps, in order, the first entry of every key: a sublist with distinct keys
    on which every key finds what it finds in the entries. -/
theorem firstByKey_spec (l : List α) :
    (firstByKey key l).Sublist l ∧ ((firstByKey key l).map key).Nodup ∧
      ∀ k, (firstByKey key l).find? (key · = k) = l.find? (key · = k) := by
  obtain ⟨rest, hsub, heq⟩ := foldl_addNew_append key [] l
  refine ⟨?_, nodup_foldl_addNew (by simp : (([] : List α).map key).Nodup) l, fun k => ?_⟩
  · rw [firstByKey, heq]
    simpa using hsub
  · rw [firstByKey, find?_foldl_addNew, List.nil_append]

variable (key) in
/-- Every key of the entries has its entry in `firstByKey`. -/
theorem exists_mem_firstByKey {l : List α} {x : α} (hx : x ∈ l) :
    ∃ y ∈ firstByKey key l, key y = key x := by
  have hfound : (l.find? (key · = key x)).isSome := by
    rw [List.find?_isSome]
    exact ⟨x, hx, by simp⟩
  rw [← (firstByKey_spec key l).2.2 (key x)] at hfound
  obtain ⟨y, hy⟩ := Option.isSome_iff_exists.mp hfound
  exact ⟨y, List.mem_of_find?_eq_some hy, by simpa using List.find?_some hy⟩

variable (key) in
/-- In a table with one entry per key, changing the element at the index `findIdx?` finds for
    a key changes the entry of that key and no other. -/
theorem modify_findIdx?_eq_map {k : κ} (f : α → α) :
    ∀ {l : List α} {i : Nat}, (l.map key).Nodup → l.findIdx? (fun x => decide (key x = k)) = some i →
      l.modify i f = l.map fun x => if key x = k then f x else x
  | [], _, _, hi => by simp at hi
  | x :: l, i, hnd, hi => by
    rw [List.map_cons, List.nodup_cons] at hnd
    rw [List.findIdx?_cons] at hi
    by_cases hx : key x = k
    · -- the head is the entry, and nothing after it has its key
      simp only [hx, decide_true, if_true, Option.some.injEq] at hi
      subst hi
      have hrest : ∀ y ∈ l, ¬ key y = k := fun y hy hy' =>
        hnd.1 (by rw [hx, ← hy']; exact List.mem_map_of_mem hy)
      rw [List.modify_zero_cons, List.map_cons, if_pos hx,
        List.map_congr_left (fun y hy => if_neg (hrest y hy)), List.map_id']
    · simp only [hx, decide_false, Bool.false_eq_true, if_false] at hi
      obtain ⟨j, hj, rfl⟩ := Option.map_eq_some_iff.mp hi
      rw [List.modify_succ_cons, List.map_cons, if_neg hx, modify_findIdx?_eq_map f hnd.2 hj]

end FirstWins
