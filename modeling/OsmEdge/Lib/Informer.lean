import OsmEdge.Lib.Sched
import Mathlib.Data.List.Basic

/-
  A keyed store replicated to a cache by an ordered stream of writes, where a write is let in
  by a check that reads the cache: the shape of an API server, the watch an informer keeps on
  one resource type, and a validating admission webhook that looks objects up in that
  informer's cache.

  The store keeps one object per key: writing an object replaces the object of its key in
  place or appends it (`upsert`), and deleting a key filters it out (`erase`). Every write the
  store takes is queued on the watch (`inFlight`) and applied to the cache when it is
  delivered, in order. A create is refused for a key the store holds and an update for one it
  does not; both must pass the store's own validation (`valid`) and the check (`admits`), which
  sees the cache and not the store. A delete is not checked.

  The cache lags: the store is the cache with the writes in flight applied (`Coherent`). A
  check that keeps a property of what it reads therefore keeps it of the store only when it
  reads a cache that has caught up. What the API server, the watch and the informer are
  documented to do in the runs where every check waits for that is stated as a law on the
  step (`SyncedLaws`), and the results hold for every step that obeys it: a check that refuses
  a second object with a property `P` keeps at most one such object in the store
  (`atMostOne_of_reachable`). The model's own step, `stepSynced`, obeys the law
  (`stepSynced_laws`).
-/

namespace Informer

variable {α κ : Type*} [DecidableEq κ] (key : α → κ)

/-! ## The store -/

/-- Writing `x`: it replaces the object of its key, in place, or is appended. -/
def upsert (x : α) : List α → List α
  | [] => [x]
  | y :: ys => if key y = key x then x :: ys else y :: upsert x ys

/-- Deleting the object of key `k`. -/
def erase (k : κ) (s : List α) : List α := s.filter fun y => key y ≠ k

/-- Whether the store holds an object of key `k`. -/
def holds (k : κ) (s : List α) : Bool := s.any fun y => key y = k

/-- At most one object of the store has the property `P`. -/
def AtMostOne (P : α → Prop) (s : List α) : Prop := ∀ y ∈ s, ∀ z ∈ s, P y → P z → y = z

variable {key}

theorem mem_upsert {x y : α} : ∀ {s : List α}, y ∈ upsert key x s → y = x ∨ y ∈ s
  | [], h => by simpa [upsert] using h
  | z :: zs, h => by
    unfold upsert at h
    split at h
    · rcases List.mem_cons.mp h with rfl | hy
      · exact .inl rfl
      · exact .inr (List.mem_cons_of_mem _ hy)
    · rcases List.mem_cons.mp h with rfl | hy
      · exact .inr List.mem_cons_self
      · exact (mem_upsert hy).imp_right (List.mem_cons_of_mem _)

theorem mem_upsert_self (x : α) : ∀ s : List α, x ∈ upsert key x s
  | [] => List.mem_singleton_self x
  | z :: zs => by
    unfold upsert
    split
    · exact List.mem_cons_self
    · exact List.mem_cons_of_mem _ (mem_upsert_self x zs)

theorem mem_upsert_of_key_ne {x y : α} (hk : key y ≠ key x) :
    ∀ {s : List α}, y ∈ s → y ∈ upsert key x s
  | z :: zs, hy => by
    unfold upsert
    split
    · rename_i hz
      rcases List.mem_cons.mp hy with rfl | hy
      · exact absurd hz hk
      · exact List.mem_cons_of_mem _ hy
    · rcases List.mem_cons.mp hy with rfl | hy
      · exact List.mem_cons_self
      · exact List.mem_cons_of_mem _ (mem_upsert_of_key_ne hk hy)

/-- With the keys of `s` distinct, the objects of `upsert x s` are `x` and the objects of `s`
    of other keys. -/
theorem mem_upsert_iff {x y : α} {s : List α} (hs : (s.map key).Nodup) :
    y ∈ upsert key x s ↔ y = x ∨ (y ∈ s ∧ key y ≠ key x) := by
  refine ⟨fun h => ?_, ?_⟩
  · induction s with
    | nil => simpa [upsert] using h
    | cons z zs ih =>
      rw [List.map_cons, List.nodup_cons] at hs
      unfold upsert at h
      split at h
      · rename_i hz
        rcases List.mem_cons.mp h with rfl | hy
        · exact .inl rfl
        · -- `x` took the place of `z`; the others have keys other than `key z`
          refine .inr ⟨List.mem_cons_of_mem _ hy, fun hyx => hs.1 ?_⟩
          rw [hz, ← hyx]
          exact List.mem_map_of_mem hy
      · rcases List.mem_cons.mp h with rfl | hy
        · exact .inr ⟨List.mem_cons_self, by assumption⟩
        · exact (ih hs.2 hy).imp_right fun h => ⟨List.mem_cons_of_mem _ h.1, h.2⟩
  · rintro (rfl | ⟨hy, hk⟩)
    · exact mem_upsert_self y s
    · exact mem_upsert_of_key_ne hk hy

theorem nodup_upsert (x : α) : ∀ {s : List α}, (s.map key).Nodup → ((upsert key x s).map key).Nodup
  | [], _ => by simp [upsert]
  | z :: zs, hs => by
    rw [List.map_cons, List.nodup_cons] at hs
    unfold upsert
    split
    · rename_i hz
      rw [List.map_cons, List.nodup_cons, ← hz]
      exact hs
    · rename_i hz
      rw [List.map_cons, List.nodup_cons]
      refine ⟨fun hmem => ?_, nodup_upsert x hs.2⟩
      obtain ⟨y, hy, hyz⟩ := List.mem_map.mp hmem
      rcases mem_upsert hy with rfl | hy
      · exact hz hyz.symm
      · exact hs.1 (hyz ▸ List.mem_map_of_mem hy)

theorem mem_erase {k : κ} {y : α} {s : List α} : y ∈ erase key k s ↔ y ∈ s ∧ key y ≠ k := by
  simp [erase]

theorem nodup_erase (k : κ) {s : List α} (hs : (s.map key).Nodup) :
    ((erase key k s).map key).Nodup :=
  hs.sublist (List.filter_sublist.map key)

theorem AtMostOne.of_subset {P : α → Prop} {s t : List α} (h : AtMostOne P s) (hts : t ⊆ s) :
    AtMostOne P t :=
  fun y hy z hz => h y (hts hy) z (hz |> hts)

/-! ## Writes, the watch and the cache -/

/-- A write as the watch delivers it. -/
inductive Event (α κ : Type*)
  | put (x : α)
  | delete (k : κ)
  deriving DecidableEq

variable (key) in
/-- A write applied to a store or to the cache. -/
def Event.apply : Event α κ → List α → List α
  | .put x, s => upsert key x s
  | .delete k, s => erase key k s

variable (key) in
/-- The writes `es` applied in order. -/
def replay (es : List (Event α κ)) (s : List α) : List α := es.foldl (fun s e => e.apply key s) s

theorem replay_append_singleton (es : List (Event α κ)) (e : Event α κ) (s : List α) :
    replay key (es ++ [e]) s = e.apply key (replay key es s) := by
  simp [replay, List.foldl_append]

/-- The store, the writes the watch has not delivered yet, and the cache. -/
structure World (α κ : Type*) where
  store : List α
  inFlight : List (Event α κ)
  cache : List α
  deriving DecidableEq

/-- Nothing stored, nothing in flight, nothing cached. -/
def World.empty : World α κ := ⟨[], [], []⟩

variable (key) in
/-- The store takes a write and queues it on the watch. -/
def World.write (w : World α κ) (e : Event α κ) : World α κ :=
  { w with store := e.apply key w.store, inFlight := w.inFlight ++ [e] }

/-- The two requests that write an object, which the check is asked about. -/
inductive Verb
  | create
  | update
  deriving DecidableEq, Repr

/-- What happens next: a request to the store, or the watch delivering its next write. -/
inductive Action (α κ : Type*)
  | create (x : α)
  | update (x : α)
  | delete (k : κ)
  | deliver

variable (key) (valid : α → Bool) (admits : Verb → List α → α → Bool)

/-- One step of the store and the watch. -/
def step (w : World α κ) : Action α κ → Option (World α κ)
  | .create x =>
    if !holds key (key x) w.store && valid x && admits .create w.cache x then
      some (w.write key (.put x))
    else none
  | .update x =>
    if holds key (key x) w.store && valid x && admits .update w.cache x then
      some (w.write key (.put x))
    else none
  | .delete k => if holds key k w.store then some (w.write key (.delete k)) else none
  | .deliver =>
    match w.inFlight with
    | [] => none
    | e :: es => some { w with inFlight := es, cache := e.apply key w.cache }

/-- The steps of the runs in which a create or an update waits until the cache has caught up. -/
def stepSynced (w : World α κ) (a : Action α κ) : Option (World α κ) :=
  match a with
  | .create _ | .update _ => if w.inFlight.isEmpty then step key valid admits w a else none
  | .delete _ | .deliver => step key valid admits w a

variable {key valid admits}

/-! ## What the runs where a check waits for the cache are documented to do -/

variable (key valid admits) in
/-- The documented behaviour of the API server, its watch and the informer, one action at a
    time, in the runs where a create or an update waits until the cache has caught up: a
    write is stored and queued on the watch only when nothing is in flight, the object passes
    the store's validation and the check reading the cache; a delete is stored and queued;
    the watch delivers its oldest write to the cache. -/
structure SyncedLaws (apiServer : World α κ → Action α κ → Option (World α κ)) : Prop where
  create : ∀ w x w', apiServer w (.create x) = some w' →
    w.inFlight = [] ∧ valid x = true ∧ admits .create w.cache x = true ∧
      w' = w.write key (.put x)
  update : ∀ w x w', apiServer w (.update x) = some w' →
    w.inFlight = [] ∧ valid x = true ∧ admits .update w.cache x = true ∧
      w' = w.write key (.put x)
  delete : ∀ w k w', apiServer w (.delete k) = some w' → w' = w.write key (.delete k)
  deliver : ∀ w w', apiServer w .deliver = some w' →
    ∃ e es, w.inFlight = e :: es ∧ w' = { w with inFlight := es, cache := e.apply key w.cache }

section laws

variable {apiServer : World α κ → Action α κ → Option (World α κ)}

/-- What a step of a lawful run does: a checked write, which found nothing in flight, a
    delete, or a delivery. -/
theorem SyncedLaws.cases (hlaws : SyncedLaws key valid admits apiServer) {w w' : World α κ}
    {a : Action α κ} (h : apiServer w a = some w') :
    (∃ v x, w.inFlight = [] ∧ valid x = true ∧ admits v w.cache x = true ∧
      w' = w.write key (.put x)) ∨
    (∃ k, w' = w.write key (.delete k)) ∨
    (∃ e es, w.inFlight = e :: es ∧ w' = { w with inFlight := es, cache := e.apply key w.cache }) := by
  cases a with
  | create x => exact .inl ⟨.create, x, hlaws.create w x w' h⟩
  | update x => exact .inl ⟨.update, x, hlaws.update w x w' h⟩
  | delete k => exact .inr (.inl ⟨k, hlaws.delete w k w' h⟩)
  | deliver => exact .inr (.inr (hlaws.deliver w w' h))

end laws

/-- A create or an update of `stepSynced` that succeeds found nothing in flight and passed both
    checks; `b` is whether the key is new or already stored, as the verb wants. -/
theorem eq_write_of_stepSynced_guard {b : Bool} {v : Verb} {w w' : World α κ} {x : α}
    (h : (if w.inFlight.isEmpty = true then
      (if (b && valid x && admits v w.cache x) = true then some (w.write key (.put x)) else none)
      else none) = some w') :
    w.inFlight = [] ∧ valid x = true ∧ admits v w.cache x = true ∧ w' = w.write key (.put x) := by
  split at h
  · split at h
    · rename_i hnil hc
      simp only [Bool.and_eq_true] at hc
      exact ⟨List.isEmpty_iff.mp hnil, hc.1.2, hc.2, (Option.some.inj h).symm⟩
    · cases h
  · cases h

/-- The model's synced steps behave as documented. -/
theorem stepSynced_laws : SyncedLaws key valid admits (stepSynced key valid admits) where
  create w x w' h := by
    simp only [stepSynced, step] at h
    exact eq_write_of_stepSynced_guard h
  update w x w' h := by
    simp only [stepSynced, step] at h
    exact eq_write_of_stepSynced_guard h
  delete w k w' h := by
    simp only [stepSynced, step] at h
    split at h
    · exact (Option.some.inj h).symm
    · cases h
  deliver w w' h := by
    simp only [stepSynced, step] at h
    split at h
    · cases h
    · rename_i e es hes
      exact ⟨e, es, hes, (Option.some.inj h).symm⟩

/-! ## The cache is the store, late -/

variable (key) in
/-- The store is the cache with the writes in flight applied. -/
def Coherent (w : World α κ) : Prop := replay key w.inFlight w.cache = w.store

theorem Coherent.write {w : World α κ} (h : Coherent key w) (e : Event α κ) :
    Coherent key (w.write key e) := by
  simp only [Coherent, World.write, replay_append_singleton]
  rw [h]

theorem Coherent.step {apiServer : World α κ → Action α κ → Option (World α κ)}
    (hlaws : SyncedLaws key valid admits apiServer) {w w' : World α κ} {a : Action α κ}
    (h : Coherent key w) (hstep : apiServer w a = some w') : Coherent key w' := by
  rcases hlaws.cases hstep with ⟨-, x, -, -, -, rfl⟩ | ⟨k, rfl⟩ | ⟨e, es, hes, rfl⟩
  · exact h.write _
  · exact h.write _
  · simp only [Coherent, replay] at h ⊢
    rw [hes, List.foldl_cons] at h
    exact h

/-! ## At most one object with a property -/

variable (key valid) in
/-- What the synced runs keep: the store coherent with the cache, its keys distinct, its
    objects valid, and at most one of them with `P`. -/
structure SyncedInv (P : α → Prop) (w : World α κ) : Prop where
  coherent : Coherent key w
  nodup : (w.store.map key).Nodup
  valid : ∀ y ∈ w.store, valid y = true
  atMostOne : AtMostOne P w.store

section atMostOne

variable {P : α → Prop}

/-- A write of `x` admitted against the store keeps at most one object with `P`, when the
    check refuses an object with `P` beside one of another key. -/
theorem AtMostOne.upsert {s : List α} (hs : (s.map key).Nodup) (h : AtMostOne P s) {x : α}
    (hx : P x → ∀ y ∈ s, P y → key y = key x) : AtMostOne P (upsert key x s) := by
  intro y hy z hz hPy hPz
  rw [mem_upsert_iff hs] at hy hz
  rcases hy with rfl | ⟨hy, hky⟩ <;> rcases hz with rfl | ⟨hz, hkz⟩
  · rfl
  · exact absurd (hx hPy z hz hPz) hkz
  · exact absurd (hx hPz y hy hPy) hky
  · exact h y hy z hz hPy hPz

variable {apiServer : World α κ → Action α κ → Option (World α κ)}

theorem SyncedInv.step {w w' : World α κ} {a : Action α κ} (hinv : SyncedInv key valid P w)
    (hlaws : SyncedLaws key valid admits apiServer)
    (hadmits : ∀ v c x, (∀ y ∈ c, valid y = true) → valid x = true → admits v c x = true → P x →
      ∀ y ∈ c, P y → key y = key x)
    (hstep : apiServer w a = some w') : SyncedInv key valid P w' := by
  have hcoh := hinv.coherent.step hlaws hstep
  rcases hlaws.cases hstep with ⟨v, x, hsync, hvx, hax, rfl⟩ | ⟨k, rfl⟩ | ⟨e, es, hes, rfl⟩
  · -- a create or an update: it waited for the cache, which is then the store
    have hcache : w.cache = w.store := by
      have := hinv.coherent
      simp only [Coherent, hsync, replay, List.foldl_nil] at this
      exact this
    rw [hcache] at hax
    refine ⟨hcoh, nodup_upsert x hinv.nodup, fun y hy => ?_, ?_⟩
    · rcases mem_upsert hy with rfl | hy
      · exact hvx
      · exact hinv.valid y hy
    · exact hinv.atMostOne.upsert hinv.nodup (hadmits v _ x hinv.valid hvx hax)
  · refine ⟨hcoh, nodup_erase k hinv.nodup, fun y hy => hinv.valid y (mem_erase.mp hy).1, ?_⟩
    exact hinv.atMostOne.of_subset fun y hy => (mem_erase.mp hy).1
  · exact ⟨hcoh, hinv.nodup, hinv.valid, hinv.atMostOne⟩

/-- In the runs where every check reads a cache that has caught up, a check that refuses an
    object with `P` beside a cached one of another key keeps at most one object with `P` in
    the store. -/
theorem atMostOne_of_reachable (hlaws : SyncedLaws key valid admits apiServer)
    (hadmits : ∀ v c x, (∀ y ∈ c, valid y = true) → valid x = true → admits v c x = true → P x →
      ∀ y ∈ c, P y → key y = key x)
    {w : World α κ} (h : Sched.Reachable apiServer World.empty w) :
    AtMostOne P w.store := by
  refine (Sched.Reachable.invariant (SyncedInv key valid P)
    (fun _ _ _ hinv hstep => hinv.step hlaws hadmits hstep) ?_ h).atMostOne
  refine ⟨rfl, List.nodup_nil, fun _ h => absurd h List.not_mem_nil, ?_⟩
  intro y hy
  exact absurd hy List.not_mem_nil

end atMostOne

end Informer
