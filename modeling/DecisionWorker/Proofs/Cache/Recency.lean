import DecisionWorker.Proofs.Cache.History

set_option autoImplicit false

/-!
A cache makes room by recency, and it gives back what was stored last.

The main statement compares every run of a cache with the history that its users remember:
an insertion evicts exactly if the key is new and the cache is full, and then it evicts the
key whose last touch is the oldest.
-/

namespace DecisionWorker

namespace Cache

variable {State : Type}

/-- An operation that only looks, and does not find what it looks for if it is a get. -/
def Passive (cache : Cache State) : CacheOperation State → Prop
  | .get key => key ∉ cache.keys
  | .put _ _ _ => False
  | .remove _ => False
  | .clear => False
  | .contains _ | .length | .isEmpty | .capacity | .describe => True

theorem OrderedBy.head_lt {history : CacheHistory State} {cache : Cache State}
    (ordered : OrderedBy history cache.entries) {oldest : Entry State}
    (head : cache.entries.head? = some oldest) {key : ExecutionKey} (cached : key ∈ cache.keys)
    (other : key ≠ oldest.key) : history.lastTouch oldest.key < history.lastTouch key := by
  obtain ⟨entry, member, rfl⟩ := mem_keys.mp cached
  obtain ⟨rest, listed⟩ := List.head?_eq_some_iff.mp head
  unfold OrderedBy at ordered
  rw [listed] at member ordered
  rcases List.mem_cons.mp member with rfl | inRest
  · exact absurd rfl other
  · exact List.rel_of_pairwise_cons ordered inRest

variable [DecidableEq State]

theorem perform_of_passive {cache : Cache State} {operation : CacheOperation State}
    (passive : cache.Passive operation) : (cache.perform operation).cache = cache := by
  cases operation with
  | get key =>
      have missing := find?_eq_none_iff.mpr passive
      simp [perform, get, touch, missing]
  | put key state taskList => exact passive.elim
  | remove key => exact passive.elim
  | clear => exact passive.elim
  | contains | length | isEmpty | capacity | describe => rfl

theorem evicted_of_put_reply {cache : Cache State} {key victim : ExecutionKey} {state : State}
    {taskList : String}
    (reply : (cache.perform (.put key state taskList)).reply = .evicted (some victim)) :
    ∃ entry, cache.victim? key = some entry ∧ entry.key = victim := by
  simp only [perform, put, insert_eq, CacheReply.evicted.injEq] at reply
  exact Option.map_eq_some_iff.mp reply

theorem not_mem_keys_perform_iff {cache : Cache State} (sound : cache.Sound)
    {operation : CacheOperation State} {key : ExecutionKey} (cached : key ∈ cache.keys) :
    key ∉ (cache.perform operation).cache.keys ↔
      operation = .remove key ∨ operation = .clear ∨
        (cache.perform operation).reply = .evicted (some key) := by
  rw [← find?_eq_none_iff]
  have present : cache.find? key ≠ none := fun missing => find?_eq_none_iff.mp missing cached
  cases operation with
  | get other => simp [perform, get, find?_touch sound, present]
  | put other state taskList =>
      have evicted : (cache.perform (.put other state taskList)).reply =
          .evicted ((cache.victim? other).map Entry.key) := by simp [perform, put, insert_eq]
      rw [evicted]
      simp only [perform, put, find?_insert sound, reduceCtorEq, false_or,
        CacheReply.evicted.injEq]
      by_cases same : other = key
      · -- A key that is cached already displaces nothing.
        subst same
        have none : cache.victim? other = none := by
          simp [victim?, Option.isSome_iff_ne_none.mpr present]
        simp [none]
      · rw [if_neg same]
        split <;> simp_all
  | remove other =>
      by_cases same : other = key <;> simp [perform, remove, find?_erase, same, present]
  | clear => simp [perform, clear, cleared, find?]
  | contains | length | isEmpty | capacity | describe => simp [perform, present]

/-- A full cache evicts the key whose last touch is the oldest, and forgets nothing else. -/
theorem evicts_by_recency {capacity : Nat} (positive : 0 < capacity)
    (operations : List (CacheOperation State)) :
    let run := (empty capacity : Cache State).run operations
    let cache := run.1
    let history := run.2
    (cache.keys.Nodup ∧ cache.keys.length ≤ capacity) ∧
    (∀ key state taskList,
      (∃ victim, (cache.perform (.put key state taskList)).reply = .evicted (some victim)) ↔
        key ∉ cache.keys ∧ cache.keys.length = capacity) ∧
    (∀ key state taskList victim,
      (cache.perform (.put key state taskList)).reply = .evicted (some victim) →
        victim ∈ cache.keys ∧ victim ≠ key ∧
        ∀ other ∈ cache.keys, other ≠ victim →
          history.lastTouch victim < history.lastTouch other) ∧
    (∀ operation, ∀ key ∈ cache.keys,
      key ∉ (cache.perform operation).cache.keys ↔
        operation = .remove key ∨ operation = .clear ∨
          (cache.perform operation).reply = .evicted (some key)) ∧
    (∀ operation, (∀ key state taskList, operation ≠ .put key state taskList) →
      (cache.perform operation).evicted = none ∧
        ∀ victim, (cache.perform operation).reply ≠ .evicted victim) ∧
    (∀ key, (cache.perform (.get key)).reply = .state (history.stored key)) ∧
    (∀ operation, cache.Passive operation →
      ∀ later, (cache.perform operation).cache.run later = cache.run later) := by
  intro run cache history
  have sound : cache.Sound := run_sound (empty_sound positive) operations
  have remembers : Remembers history cache := by
    simpa using (remembers_empty capacity).run (empty_sound positive) operations
  have capacityKept : cache.capacity = capacity := run_capacity _ operations
  have bounded := sound.bounded
  rw [capacityKept] at bounded
  refine ⟨⟨sound.distinct, ?_⟩, ?_, ?_, ?_, ?_, ?_, ?_⟩
  · rwa [length_keys]
  · intro key state taskList
    have replied : (cache.perform (.put key state taskList)).reply =
        .evicted ((cache.victim? key).map Entry.key) := by simp [perform, put, insert_eq]
    rw [length_keys, ← capacityKept, ← isSome_victim?_iff sound, replied]
    cases cache.victim? key <;> simp
  · intro key state taskList victim reply
    obtain ⟨entry, chosen, rfl⟩ := evicted_of_put_reply reply
    obtain ⟨absent, -, head⟩ := (victim?_eq_some_iff sound).mp chosen
    have cached : entry.key ∈ cache.keys :=
      key_mem_keys (List.mem_of_mem_head? (by rw [head]; rfl))
    refine ⟨cached, ?_, fun other member => remembers.ordered.head_lt head member⟩
    intro same
    exact absent (same ▸ cached)
  · exact fun operation key cached => not_mem_keys_perform_iff sound cached
  · intro operation noPut
    cases operation with
    | put key state taskList => exact absurd rfl (noPut key state taskList)
    | get | remove | clear | contains | length | isEmpty | capacity | describe =>
        refine ⟨rfl, ?_⟩
        intro victim reply
        simp [perform, get, remove, clear] at reply
  · intro key
    rw [remembers.stored]
    rfl
  · intro operation passive later
    rw [perform_of_passive passive]

/-- With room for two keys, a get of the first makes the second one leave. -/
theorem evicts_by_recency_after_get :
    let first : ExecutionKey := ⟨"first", "run", by decide, by decide⟩
    let second : ExecutionKey := ⟨"second", "run", by decide, by decide⟩
    let third : ExecutionKey := ⟨"third", "run", by decide, by decide⟩
    let run := (empty 2 : Cache Nat).run
      [.put first 1 "tasks", .put second 2 "tasks", .get first]
    0 < 2 ∧ (run.1.perform (.put third 3 "tasks")).reply = .evicted (some second) ∧
      run.2.lastTouch second < run.2.lastTouch first := by
  intro first second third run
  have general := @evicts_by_recency Nat _ 2 (by decide)
    [.put first 1 "tasks", .put second 2 "tasks", .get first]
  have reply : (run.1.perform (.put third 3 "tasks")).reply = .evicted (some second) := by
    decide +kernel
  have oldest := (general.2.2.1 third 3 "tasks" second reply).2.2
  exact ⟨by decide, reply, oldest first (by decide +kernel) (by decide +kernel)⟩

end Cache

end DecisionWorker
