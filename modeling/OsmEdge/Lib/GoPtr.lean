import OsmEdge.Lib.GoMap

/-
  Values reached through Go pointers.

  A map allocated once and then held by pointer in several places is one value: a write
  through any holder is seen from every other. The values a program allocates so form a heap,
  a map from addresses to values. A holder keeps an address, and what it holds is read by
  dereferencing the address in the heap as the program left it (`deref`).

  A write through a pointer changes the value at its address (`store`); where nothing was
  allocated, nothing is written. When every write to an address overwrites what the earlier
  writes to it did, a loop of writes leaves at each address its first value changed by the
  last write to it alone (`lookup_foldl_store`): the last writer wins, for every holder of the
  address.
-/

namespace GoPtr

variable {ι α κ ν : Type*} [DecidableEq α]

/-- `*p = f(*p)` through a pointer to the address `a`. -/
def store (heap : AList fun _ : α => ν) (a : α) (f : ν → ν) : AList fun _ : α => ν :=
  match heap.lookup a with
  | some v => heap.insert a (f v)
  | none => heap

theorem store_of_lookup_eq_none {heap : AList fun _ : α => ν} {a : α} (h : heap.lookup a = none)
    (f : ν → ν) : store heap a f = heap := by
  simp [store, h]

theorem lookup_store (heap : AList fun _ : α => ν) (a b : α) (f : ν → ν) :
    (store heap a f).lookup b = if b = a then (heap.lookup a).map f else heap.lookup b := by
  unfold store
  by_cases hb : b = a
  · subst hb
    cases h : heap.lookup b <;> simp [h, AList.lookup_insert]
  · cases heap.lookup a <;> simp [hb, AList.lookup_insert_ne hb]

/-- A write allocates nothing. -/
@[simp] theorem mem_store (heap : AList fun _ : α => ν) (a b : α) (f : ν → ν) :
    b ∈ store heap a f ↔ b ∈ heap := by
  rw [← AList.lookup_isSome, ← AList.lookup_isSome, lookup_store]
  split_ifs with hb
  · subst hb
    rw [Option.isSome_map]
  · rfl

/-- What the writes of `xs` do at the address `a`: the last one's change, or nothing. -/
def lastWrite (addr : ι → α) (f : ι → ν → ν) (xs : List ι) (a : α) : ν → ν :=
  match xs.reverse.find? (addr · = a) with
  | some x => f x
  | none => id

@[simp] theorem lastWrite_nil (addr : ι → α) (f : ι → ν → ν) (a : α) :
    lastWrite addr f [] a = id := rfl

theorem lastWrite_append_of_eq (addr : ι → α) (f : ι → ν → ν) (xs : List ι) {x : ι} {a : α}
    (hx : addr x = a) : lastWrite addr f (xs ++ [x]) a = f x := by
  simp [lastWrite, hx]

theorem lastWrite_append_of_ne (addr : ι → α) (f : ι → ν → ν) (xs : List ι) {x : ι} {a : α}
    (hx : addr x ≠ a) : lastWrite addr f (xs ++ [x]) a = lastWrite addr f xs a := by
  simp [lastWrite, hx]

/-- A write that overwrites the earlier writes to its address hides them. -/
theorem comp_lastWrite {addr : ι → α} {f : ι → ν → ν}
    (hf : ∀ x y v, addr y = addr x → f x (f y v) = f x v) (xs : List ι) (x : ι) :
    f x ∘ lastWrite addr f xs (addr x) = f x := by
  funext v
  unfold lastWrite
  split
  · next y hy => exact hf x y v (by simpa using List.find?_some hy)
  · rfl

/-- The last writer wins: after a loop of writes that overwrite each other, every address
    holds its first value changed by the last write to it. -/
theorem lookup_foldl_store (addr : ι → α) (f : ι → ν → ν)
    (hf : ∀ x y v, addr y = addr x → f x (f y v) = f x v) (heap : AList fun _ : α => ν)
    (a : α) (xs : List ι) :
    (xs.foldl (fun h x => store h (addr x) (f x)) heap).lookup a =
      (heap.lookup a).map (lastWrite addr f xs a) := by
  -- from the last write backwards: it is the one that decides the address it writes
  induction xs using List.reverseRecOn with
  | nil => simp
  | append_singleton xs x ih =>
    rw [List.foldl_append, List.foldl_cons, List.foldl_nil, lookup_store]
    by_cases hx : a = addr x
    · rw [if_pos hx, ← hx, ih, Option.map_map, lastWrite_append_of_eq addr f xs hx.symm, hx,
        comp_lastWrite hf xs x]
    · rw [if_neg hx, ih, lastWrite_append_of_ne addr f xs (Ne.symm hx)]

/-- Writes by changes that keep a property of the values keep it of what every address
    reads as, a missing value reading as `d`. -/
theorem getD_foldl_store (addr : ι → α) (f : ι → ν → ν) (P : ν → Prop) (hf : ∀ x v, P v → P (f x v))
    (d : ν) (a : α) :
    ∀ (xs : List ι) (heap : AList fun _ : α => ν), P ((heap.lookup a).getD d) →
      P (((xs.foldl (fun h x => store h (addr x) (f x)) heap).lookup a).getD d)
  | [], _, h => h
  | x :: xs, heap, h => by
    rw [List.foldl_cons]
    apply getD_foldl_store addr f P hf d a xs
    rw [lookup_store]
    split_ifs with ha
    · -- the write at this address changes its value, if there is one
      subst ha
      cases hv : heap.lookup (addr x) with
      | none => simpa [hv] using h
      | some v => exact hf x v (by simpa [hv] using h)
    · exact h

/-- What a map of pointers holds, read through the heap; a pointer to nothing reads as `d`. -/
def deref (heap : AList fun _ : α => ν) (d : ν) (m : AList fun _ : κ => α) :
    AList fun _ : κ => ν :=
  GoMap.mapVal (fun a => (heap.lookup a).getD d) m

@[simp] theorem lookup_deref [DecidableEq κ] (heap : AList fun _ : α => ν) (d : ν)
    (m : AList fun _ : κ => α) (k : κ) :
    (deref heap d m).lookup k = (m.lookup k).map fun a => (heap.lookup a).getD d :=
  GoMap.lookup_mapVal _ m k

end GoPtr
