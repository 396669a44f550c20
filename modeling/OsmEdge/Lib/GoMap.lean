import Mathlib.Data.List.AList
import OsmEdge.Lib.GoSet

/-
  Go maps filled by a loop.

  A map assigned in a range loop, `for _, x := range xs { m[key(x)] = val(x) }`, is an
  association list (`AList`, keys distinct) built by `AList.insert`, which replaces the
  entry of a key already present. Two facts describe the result: every entry comes from the
  starting map or from an element of the list, and when the elements' keys are distinct and
  new, every element leaves its entry.

  A slice held in a map and grown by `m[k] = append(m[k], vs...)` is `appendAt`: the slice
  of every key is what was appended to that key, in order (`lookup_appendAt`).

  A range loop over a map, `for k, v := range m`, visits every key once in an order the
  runtime picks: `range E m`, with the order an `Enumerator` of the keys (`mem_range_iff`,
  `nodup_map_fst_range`).

  A range loop that changes every value through its pointer, `for _, v := range m { f(v) }`,
  is `mapVal`: the same keys, each value changed; a change that keeps every value keeps the
  map (`mapVal_eq_self`).
-/

namespace GoMap

variable {ι κ ν : Type*} [DecidableEq κ]

/-- Erasing a key keeps the entries of every other key. -/
theorem mem_kerase_of_key_ne {a : κ} {e : Sigma fun _ : κ => ν} (h : e.1 ≠ a) :
    ∀ {l : List (Sigma fun _ : κ => ν)}, e ∈ l → e ∈ List.kerase a l
  | [], he => absurd he List.not_mem_nil
  | s :: l, he => by
    by_cases hs : a = s.1
    · rw [List.kerase_cons_eq hs]
      rcases List.mem_cons.mp he with rfl | he
      · exact absurd hs.symm h
      · exact he
    · rw [List.kerase_cons_ne hs]
      rcases List.mem_cons.mp he with rfl | he
      · exact List.mem_cons_self
      · exact List.mem_cons_of_mem s (mem_kerase_of_key_ne h he)

/-- Every entry of the map after the loop comes from the starting map or from an
    assignment of the loop. -/
theorem mem_entries_foldl_insert (key : ι → κ) (val : ι → ν) :
    ∀ (xs : List ι) (m : AList (fun _ : κ => ν)) (e : Sigma fun _ : κ => ν),
      e ∈ (xs.foldl (fun m x => m.insert (key x) (val x)) m).entries →
        e ∈ m.entries ∨ ∃ x ∈ xs, e = ⟨key x, val x⟩
  | [], m, e, h => Or.inl h
  | x :: xs, m, e, h => by
    rw [List.foldl_cons] at h
    rcases mem_entries_foldl_insert key val xs _ e h with he | ⟨y, hy, rfl⟩
    · -- an entry of the map after assigning `x`: the new one, or one `kerase` kept
      rw [AList.entries_insert, List.mem_cons] at he
      rcases he with rfl | he
      · exact Or.inr ⟨x, List.mem_cons_self, rfl⟩
      · exact Or.inl ((List.kerase_sublist _ _).subset he)
    · exact Or.inr ⟨y, List.mem_cons_of_mem x hy, rfl⟩

/-- When the keys of the loop are distinct and none is in the starting map, every
    assignment leaves its entry. -/
theorem mem_entries_foldl_insert_of_nodup (key : ι → κ) (val : ι → ν) :
    ∀ (xs : List ι) (m : AList (fun _ : κ => ν)), (xs.map key).Nodup →
      (∀ x ∈ xs, key x ∉ m) → ∀ x ∈ xs,
        (⟨key x, val x⟩ : Sigma fun _ : κ => ν) ∈
          (xs.foldl (fun m x => m.insert (key x) (val x)) m).entries
  | [], _, _, _, x, hx => absurd hx List.not_mem_nil
  | y :: ys, m, hnd, hfresh, x, hx => by
    rw [List.map_cons, List.nodup_cons] at hnd
    rw [List.foldl_cons]
    have hfresh' : ∀ z ∈ ys, key z ∉ m.insert (key y) (val y) := by
      intro z hz hmem
      rw [AList.mem_insert] at hmem
      rcases hmem with heq | hmem
      · exact hnd.1 (heq ▸ List.mem_map_of_mem hz)
      · exact hfresh z (List.mem_cons_of_mem y hz) hmem
    rcases List.mem_cons.mp hx with rfl | hx
    · -- the first assignment stays: no later key overwrites it
      have hkeep : ∀ (zs : List ι) (m' : AList (fun _ : κ => ν)), key x ∉ zs.map key →
          (⟨key x, val x⟩ : Sigma fun _ : κ => ν) ∈ m'.entries →
          (⟨key x, val x⟩ : Sigma fun _ : κ => ν) ∈
            (zs.foldl (fun m z => m.insert (key z) (val z)) m').entries := by
        intro zs
        induction zs with
        | nil => intro m' _ h; exact h
        | cons z zs ih =>
          intro m' hz h
          rw [List.map_cons, List.mem_cons, not_or] at hz
          rw [List.foldl_cons]
          apply ih _ hz.2
          rw [AList.entries_insert]
          exact List.mem_cons_of_mem _ (mem_kerase_of_key_ne hz.1 h)
      apply hkeep ys _ hnd.1
      rw [AList.entries_insert]
      exact List.mem_cons_self
    · exact mem_entries_foldl_insert_of_nodup key val ys _ hnd.2 hfresh' x hx

/-- Assigning one value to every key of a loop: each of them holds it afterwards, and every
    other key what it held. -/
theorem lookup_foldl_insert_const (v : ν) (k : κ) :
    ∀ (xs : List κ) (m : AList fun _ : κ => ν),
      (xs.foldl (fun m x => m.insert x v) m).lookup k = if k ∈ xs then some v else m.lookup k
  | [], m => by simp
  | x :: xs, m => by
    rw [List.foldl_cons, lookup_foldl_insert_const v k xs]
    by_cases hk : k = x
    · subst hk
      simp [AList.lookup_insert]
    · simp [AList.lookup_insert_ne hk, hk]

/-! ## Slices held in a map -/

/-- `m[k] = append(m[k], vs...)`: a missing key reads as the empty slice, and the key is
    there afterwards even when nothing is appended. -/
def appendAt (m : AList fun _ : κ => List ν) (k : κ) (vs : List ν) : AList fun _ : κ => List ν :=
  m.insert k ((m.lookup k).getD [] ++ vs)

/-- Appending to one key grows its slice and leaves every other. -/
theorem lookup_appendAt (m : AList fun _ : κ => List ν) (k k' : κ) (vs : List ν) :
    ((appendAt m k vs).lookup k').getD [] = (m.lookup k').getD [] ++ if k' = k then vs else [] := by
  unfold appendAt
  by_cases h : k' = k
  · subst h
    simp [AList.lookup_insert]
  · simp [AList.lookup_insert_ne h, h]

/-- `for _, x := range xs { for _, k := range keys(x) { m[k] = append(m[k], x) } }`: every
    element appended to the slice of each of its keys, once for each time it lists the key. -/
def groupBy (keys : ι → List κ) (xs : List ι) (m : AList fun _ : κ => List ι) :
    AList fun _ : κ => List ι :=
  xs.foldl (fun m x => (keys x).foldl (fun m k => appendAt m k [x]) m) m

/-- The keys of one element: its slices grow by it as often as it lists them. -/
theorem lookup_foldl_appendAt (x : ι) (k : κ) :
    ∀ (ks : List κ) (m : AList fun _ : κ => List ι),
      ((ks.foldl (fun m k' => appendAt m k' [x]) m).lookup k).getD [] =
        (m.lookup k).getD [] ++ List.replicate (ks.count k) x
  | [], m => by simp
  | k' :: ks, m => by
    rw [List.foldl_cons, lookup_foldl_appendAt x k ks, lookup_appendAt, List.count_cons]
    by_cases hk : k' = k
    · subst hk
      simp [List.replicate_succ]
    · simp [hk, Ne.symm hk]

/-- The slice of a key holds the elements that list it, in order. -/
theorem lookup_groupBy (keys : ι → List κ) (k : κ) :
    ∀ (xs : List ι) (m : AList fun _ : κ => List ι),
      ((groupBy keys xs m).lookup k).getD [] =
        (m.lookup k).getD [] ++ xs.flatMap fun x => List.replicate ((keys x).count k) x
  | [], m => by simp [groupBy]
  | x :: xs, m => by
    have hstep := lookup_groupBy keys k xs ((keys x).foldl (fun m k' => appendAt m k' [x]) m)
    rw [groupBy, List.foldl_cons] at *
    rw [hstep, lookup_foldl_appendAt, List.flatMap_cons, List.append_assoc]

/-- A key gets a slice exactly when an element lists it. -/
theorem mem_groupBy (keys : ι → List κ) (k : κ) :
    ∀ (xs : List ι) (m : AList fun _ : κ => List ι),
      k ∈ groupBy keys xs m ↔ k ∈ m ∨ ∃ x ∈ xs, k ∈ keys x
  | [], m => by simp [groupBy]
  | x :: xs, m => by
    -- the keys of one element each get a slice, appended to or not
    have hone : ∀ (ks : List κ) (m : AList fun _ : κ => List ι),
        k ∈ ks.foldl (fun m k' => appendAt m k' [x]) m ↔ k ∈ m ∨ k ∈ ks := by
      intro ks
      induction ks with
      | nil => simp
      | cons k' ks ih =>
        intro m
        rw [List.foldl_cons, ih, appendAt, AList.mem_insert, List.mem_cons]
        tauto
    have hstep := mem_groupBy keys k xs ((keys x).foldl (fun m k' => appendAt m k' [x]) m)
    rw [groupBy, List.foldl_cons] at *
    rw [hstep, hone]
    simp only [List.mem_cons, exists_eq_or_imp]
    tauto

/-- Searching the slice of a key built from nothing finds the first element that lists the
    key and passes the test. -/
theorem find?_groupBy (keys : ι → List κ) (xs : List ι) (k : κ) (p : ι → Bool)
    [DecidablePred fun x => k ∈ keys x] :
    (((groupBy keys xs ∅).lookup k).getD []).find? p = xs.find? fun x => decide (k ∈ keys x) && p x := by
  rw [lookup_groupBy, AList.lookup_empty, Option.getD_none, List.nil_append]
  induction xs with
  | nil => rfl
  | cons x xs ih =>
    rw [List.flatMap_cons, List.find?_append, ih, List.find?_replicate, List.find?_cons]
    by_cases hk : k ∈ keys x
    · have hcount : (keys x).count k ≠ 0 := (List.count_pos_iff.mpr hk).ne'
      cases p x <;> simp [hcount, hk]
    · have hcount : (keys x).count k = 0 := List.count_eq_zero.mpr hk
      simp [hcount, hk]

/-! ## Ranging over a map -/

/-- `for k, v := range m`: every key once, in the order `E` lists the keys, with its
    value. -/
def range (E : GoSet.Enumerator κ) (m : AList fun _ : κ => ν) : List (κ × ν) :=
  (E.enum m.keys.toFinset).filterMap fun k => (m.lookup k).map (k, ·)

/-- A range loop visits exactly the map's entries. -/
theorem mem_range_iff (E : GoSet.Enumerator κ) (m : AList fun _ : κ => ν) (k : κ) (v : ν) :
    (k, v) ∈ range E m ↔ m.lookup k = some v := by
  unfold range
  rw [List.mem_filterMap]
  constructor
  · rintro ⟨k', -, hk'⟩
    obtain ⟨v', hv', hkv⟩ := Option.map_eq_some_iff.mp hk'
    obtain ⟨rfl, rfl⟩ := Prod.mk.inj hkv
    exact hv'
  · intro hv
    -- a key with a value is one of the keys, so the enumeration lists it
    have hkey : k ∈ m.keys := AList.mem_keys.mpr (AList.lookup_isSome.mp (by simp [hv]))
    exact ⟨k, by simpa using hkey, by simp [hv]⟩

/-- A range loop visits every key once. -/
theorem nodup_map_fst_range (E : GoSet.Enumerator κ) (m : AList fun _ : κ => ν) :
    ((range E m).map Prod.fst).Nodup := by
  unfold range
  rw [List.map_filterMap]
  refine (E.nodup _).filterMap ?_
  intro a a' b ha ha'
  simp only [Option.map_map, Option.mem_def, Option.map_eq_some_iff, Function.comp_apply] at ha ha'
  obtain ⟨_, -, rfl⟩ := ha
  obtain ⟨_, -, rfl⟩ := ha'
  rfl

/-- `for _, x := range xs { m[hash(x)] = x }`, then the map's values in range order: for
    every hash one element, the last that has it. -/
def dedupByHash (hash : ι → κ) (E : GoSet.Enumerator κ) (xs : List ι) : List ι :=
  (range E (xs.foldl (fun m x => m.insert (hash x) x) ∅)).map (·.2)

/-! ## Changing every value -/

section mapVal

variable {ν' : Type*}

omit [DecidableEq κ] in
/-- The map with every value changed by `f`. -/
def mapVal (f : ν → ν') (m : AList fun _ : κ => ν) : AList fun _ : κ => ν' :=
  ⟨m.entries.map fun e => ⟨e.1, f e.2⟩, by
    simpa [List.NodupKeys, List.keys, Function.comp_def] using m.nodupKeys⟩

omit [DecidableEq κ] in
@[simp] theorem entries_mapVal (f : ν → ν') (m : AList fun _ : κ => ν) :
    (mapVal f m).entries = m.entries.map fun e => ⟨e.1, f e.2⟩ := rfl

omit [DecidableEq κ] in
/-- A change that keeps every value keeps the map. -/
theorem mapVal_eq_self {f : ν → ν} {m : AList fun _ : κ => ν} (h : ∀ e ∈ m.entries, f e.2 = e.2) :
    mapVal f m = m := by
  apply AList.ext
  rw [entries_mapVal]
  conv_rhs => rw [← List.map_id m.entries]
  apply List.map_congr_left
  intro e he
  rw [h e he]
  rfl

/-- Every key holds its value changed. -/
@[simp] theorem lookup_mapVal (f : ν → ν') (m : AList fun _ : κ => ν) (k : κ) :
    (mapVal f m).lookup k = (m.lookup k).map f :=
  List.dlookup_map₂ (f := fun _ => f) k

omit [DecidableEq κ] in
@[simp] theorem keys_mapVal (f : ν → ν') (m : AList fun _ : κ => ν) :
    (mapVal f m).keys = m.keys := by
  simp [AList.keys, List.keys, Function.comp_def]

omit [DecidableEq κ] in
@[simp] theorem mem_mapVal (f : ν → ν') (m : AList fun _ : κ => ν) (k : κ) :
    k ∈ mapVal f m ↔ k ∈ m := by
  rw [AList.mem_keys, AList.mem_keys, keys_mapVal]

omit [DecidableEq κ] in
/-- Two changes in a row are one change. -/
theorem mapVal_mapVal {ν'' : Type*} (g : ν' → ν'') (f : ν → ν') (m : AList fun _ : κ => ν) :
    mapVal g (mapVal f m) = mapVal (g ∘ f) m := by
  apply AList.ext
  simp

end mapVal

end GoMap
