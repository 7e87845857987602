import DecisionWorker.Proofs.Cache.History
import DecisionWorker.Proofs.Cache.Holdings

set_option autoImplicit false

/-!
A larger cache never loses a hit.

Of two caches that undergo the same operations the larger one may find a key that the smaller
one misses, and then the two touch and displace different keys. Still the smaller cache stays
`Within` the larger one: its entries are some of the larger cache's entries in the same order,
and it never has more room left. So where the larger cache has to evict its oldest entry, the
smaller one evicts too.
-/

namespace DecisionWorker

namespace Cache

variable {State : Type}

/-- The entries of the lesser cache are among those of the greater one, in the same order, and
the lesser cache has no more room left. -/
structure Within (lesser greater : Cache State) : Prop where
  entries : lesser.entries.Sublist greater.entries
  generation : lesser.generation = greater.generation
  capacity : lesser.capacity ≤ greater.capacity
  room : lesser.capacity + greater.length ≤ greater.capacity + lesser.length

theorem within_empty {small large : Nat} (ordered : small ≤ large) :
    (empty small : Cache State).Within (empty large) :=
  ⟨List.Sublist.refl _, rfl, ordered, ordered⟩

variable {lesser greater : Cache State}

theorem Within.find? (within : lesser.Within greater) (sound : greater.Sound)
    {key : ExecutionKey} {entry : Entry State} (found : lesser.find? key = some entry) :
    greater.find? key = some entry := by
  obtain ⟨member, same⟩ := mem_of_find? found
  exact sound.find?_eq_some_iff.mpr ⟨within.entries.subset member, same⟩

theorem Within.isSome_find? (within : lesser.Within greater) (sound : greater.Sound)
    {key : ExecutionKey} (cached : (lesser.find? key).isSome = true) :
    (greater.find? key).isSome = true := by
  obtain ⟨entry, found⟩ := Option.isSome_iff_exists.mp cached
  rw [within.find? sound found]
  rfl

/-- An entry that comes last in both caches takes the same room in both. -/
theorem Within.store (within : lesser.Within greater) (entry : Entry State) (generation : Nat) :
    (Cache.mk lesser.capacity (lesser.entries ++ [entry]) generation).Within
      ⟨greater.capacity, greater.entries ++ [entry], generation⟩ where
  entries := within.entries.append (List.Sublist.refl _)
  generation := rfl
  capacity := within.capacity
  room := by
    have room := within.room
    simp only [length, List.length_append, List.length_singleton] at room ⊢
    omega

theorem Within.erase (within : lesser.Within greater) (soundLesser : lesser.Sound)
    (soundGreater : greater.Sound) (key : ExecutionKey) :
    (lesser.erase key).Within (greater.erase key) where
  entries := within.entries.filter _
  generation := within.generation
  capacity := within.capacity
  room := by
    have room := within.room
    have split := (others_perm soundGreater key).length_eq
    simp only [Cache.erase, length, List.length_append] at room split ⊢
    cases found : lesser.find? key with
    | none =>
        rw [others_eq_entries (find?_eq_none_iff.mp found)]
        omega
    | some entry =>
        have splitLesser := (others_perm soundLesser key).length_eq
        rw [within.find? soundGreater found] at split
        rw [found] at splitLesser
        simp only [List.length_append, Option.toList_some, List.length_singleton]
          at split splitLesser
        omega

/-- What stays in the lesser cache when a key is stored stays in the greater one. -/
theorem Within.keep (within : lesser.Within greater) (soundLesser : lesser.Sound)
    (soundGreater : greater.Sound) (key : ExecutionKey) :
    ({ lesser with entries := lesser.kept key } : Cache State).Within
      { greater with entries := greater.kept key } := by
  by_cases cached : (lesser.find? key).isSome = true
  · have cachedGreater := within.isSome_find? soundGreater cached
    simp only [kept, cached, cachedGreater, if_true]
    exact within.erase soundLesser soundGreater key
  · have absent : key ∉ lesser.keys := fun present => cached (isSome_find?_iff.mpr present)
    have bounded := soundLesser.bounded
    have roomy := soundLesser.roomy
    have room := within.room
    by_cases full : lesser.length < lesser.capacity
    · -- The lesser cache loses nothing, so the greater one must not lose an entry of it.
      have stays : lesser.kept key = lesser.entries := by simp [kept, cached, full]
      refine ⟨?_, within.generation, within.capacity, ?_⟩
      · rw [stays, kept]
        split
        next =>
          rw [← others_eq_entries absent]
          exact within.entries.filter _
        next =>
          have roomGreater : greater.length < greater.capacity := by omega
          rw [if_pos roomGreater]
          exact within.entries
      · have fewer := (greater.kept_sublist key).length_le
        simp only [length, stays] at fewer room ⊢
        omega
    · have leaves : lesser.kept key = lesser.entries.tail := by simp [kept, cached, full]
      refine ⟨?_, within.generation, within.capacity, ?_⟩
      · rw [leaves, kept]
        split
        next =>
          apply (List.tail_sublist _).trans
          rw [← others_eq_entries absent]
          exact within.entries.filter _
        next =>
          split
          next => exact (List.tail_sublist _).trans within.entries
          next => exact within.entries.tail
      · have fits := greater.length_kept_lt soundGreater key
        simp only [length, leaves, List.length_tail] at bounded full ⊢
        omega

theorem Within.touch (within : lesser.Within greater) (soundLesser : lesser.Sound)
    (soundGreater : greater.Sound) (key : ExecutionKey) :
    (lesser.touch key).Within (greater.touch key) := by
  have others := within.erase soundLesser soundGreater key
  cases found : lesser.find? key with
  | some entry =>
      rw [touch_eq found, touch_eq (within.find? soundGreater found), within.generation]
      exact others.store entry greater.generation
  | none =>
      have untouched : lesser.touch key = lesser := by simp [Cache.touch, found]
      rw [untouched]
      cases foundGreater : greater.find? key with
      | none =>
          have untouchedGreater : greater.touch key = greater := by
            simp [Cache.touch, foundGreater]
          rwa [untouchedGreater]
      | some entry =>
          -- A hit of the greater cache alone moves no key that the lesser one has.
          have same := (touch_perm soundGreater key).length_eq
          refine ⟨?_, ?_, ?_, ?_⟩
          · rw [touch_eq foundGreater, ← others_eq_entries (find?_eq_none_iff.mp found)]
            exact others.entries.trans (List.sublist_append_left _ _)
          · rw [touch_eq foundGreater]
            exact within.generation
          · rw [touch_eq foundGreater]
            exact within.capacity
          · simp only [length, same]
            rw [touch_eq foundGreater]
            exact within.room

variable [DecidableEq State]

theorem Within.perform (within : lesser.Within greater) (soundLesser : lesser.Sound)
    (soundGreater : greater.Sound) (operation : CacheOperation State) :
    (lesser.perform operation).cache.Within (greater.perform operation).cache := by
  cases operation with
  | get key => exact within.touch soundLesser soundGreater key
  | put key state taskList =>
      simp only [Cache.perform, put, insert_eq, within.generation]
      exact (within.keep soundLesser soundGreater key).store _ _
  | remove key => exact within.erase soundLesser soundGreater key
  | clear => exact ⟨List.Sublist.refl _, within.generation, within.capacity, within.capacity⟩
  | contains | length | isEmpty | capacity | describe => exact within

theorem Within.reply_get (within : lesser.Within greater) (sound : greater.Sound)
    {operation : CacheOperation State} {state : State}
    (hit : (lesser.perform operation).reply = .state (some state)) :
    (greater.perform operation).reply = .state (some state) := by
  cases operation with
  | get key =>
      simp only [Cache.perform, get, CacheReply.state.injEq, Option.map_eq_some_iff] at hit ⊢
      obtain ⟨entry, found, same⟩ := hit
      exact ⟨entry, within.find? sound found, same⟩
  | put | remove | clear | contains | length | isEmpty | capacity | describe => cases hit

/-- Both caches have seen the same operation, and what the lesser one gave back the greater
one gave back too. -/
def HitsAlike (inLesser inGreater : CacheRecord State) : Prop :=
  inLesser.operation = inGreater.operation ∧
    ∀ state, inLesser.reply = .state (some state) → inGreater.reply = .state (some state)

theorem Within.run (within : lesser.Within greater) (soundLesser : lesser.Sound)
    (soundGreater : greater.Sound) (operations : List (CacheOperation State)) :
    (lesser.run operations).1.Within (greater.run operations).1 ∧
      List.Forall₂ HitsAlike (lesser.run operations).2 (greater.run operations).2 := by
  induction operations generalizing lesser greater with
  | nil => exact ⟨within, .nil⟩
  | cons operation later inductionHypothesis =>
      obtain ⟨ends, hits⟩ := inductionHypothesis
        (within.perform soundLesser soundGreater operation)
        (perform_sound soundLesser operation) (perform_sound soundGreater operation)
      exact ⟨ends, .cons ⟨rfl, fun _ => within.reply_get soundGreater⟩ hits⟩

/-- After any operations a larger cache holds all that a smaller one holds, in the same order of
last use, and it has answered every get that was a hit of the smaller one alike. -/
theorem larger_cache_keeps_hits {small large : Nat} (positive : 0 < small)
    (ordered : small ≤ large) (operations : List (CacheOperation State)) :
    let lesser := (empty small : Cache State).run operations
    let greater := (empty large : Cache State).run operations
    (∀ key entry, lesser.1.find? key = some entry → greater.1.find? key = some entry) ∧
      lesser.1.entries.Sublist greater.1.entries ∧
      (∀ key state, (lesser.1.perform (.get key)).reply = .state (some state) →
        (greater.1.perform (.get key)).reply = .state (some state)) ∧
      List.Forall₂ HitsAlike lesser.2 greater.2 := by
  intro lesser greater
  have soundLesser : (empty small : Cache State).Sound := empty_sound positive
  have soundGreater : (empty large : Cache State).Sound :=
    empty_sound (Nat.lt_of_lt_of_le positive ordered)
  have begun : (empty small : Cache State).Within (empty large) := within_empty ordered
  obtain ⟨within, hits⟩ := begun.run soundLesser soundGreater operations
  have sound : greater.1.Sound := run_sound soundGreater operations
  exact ⟨fun _ _ => within.find? sound, within.entries, fun _ _ => within.reply_get sound, hits⟩

/-- Only the larger cache still has the first key when it is asked for, and only there the get
changes the order; what the smaller one has kept, both give back. -/
theorem larger_cache_keeps_hits_after_miss :
    let first : ExecutionKey := ⟨"first", "run", by decide, by decide⟩
    let second : ExecutionKey := ⟨"second", "run", by decide, by decide⟩
    let third : ExecutionKey := ⟨"third", "run", by decide, by decide⟩
    let operations : List (CacheOperation Nat) :=
      [.put first 1 "tasks", .put second 2 "tasks", .put third 3 "tasks", .remove second,
        .get first, .put second 4 "tasks"]
    let lesser := (empty 2 : Cache Nat).run operations
    let greater := (empty 3 : Cache Nat).run operations
    0 < 2 ∧ 2 ≤ 3 ∧ lesser.1.keys = [third, second] ∧ greater.1.keys = [third, first, second] ∧
      (lesser.1.perform (.get third)).reply = .state (some 3) ∧
      (greater.1.perform (.get third)).reply = .state (some 3) := by
  intro first second third operations lesser greater
  have general := @larger_cache_keeps_hits Nat _ 2 3 (by decide) (by decide) operations
  have hit : (lesser.1.perform (.get third)).reply = .state (some 3) := by decide +kernel
  exact ⟨by decide, by decide, by decide +kernel, by decide +kernel, hit,
    general.2.2.1 third 3 hit⟩

end Cache

end DecisionWorker
