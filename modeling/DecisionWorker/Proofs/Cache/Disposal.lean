import DecisionWorker.Proofs.Cache.Entries

set_option autoImplicit false

/-!
Which states an operation on a cache disposes.

A state is disposed when its key loses it. What is cached under other keys is not touched,
and an insertion never disposes the state that it stores.
-/

namespace DecisionWorker.Cache

variable {State : Type}

variable [DecidableEq State]

theorem find?_perform {cache : Cache State} (sound : cache.Sound)
    {operation : CacheOperation State} {key : ExecutionKey} {entry : Entry State}
    (found : (cache.perform operation).cache.find? key = some entry) :
    cache.find? key = some entry ∨ operation = .put key entry.state entry.taskList := by
  cases operation with
  | get touched =>
      left
      rw [← find?_touch sound touched key]
      exact found
  | put stored state taskList =>
      simp only [perform, put, find?_insert sound] at found
      split at found
      next same =>
        cases found
        right
        rw [same]
      next =>
        split at found
        · cases found
        · exact .inl found
  | remove removed =>
      simp only [perform, remove, find?_erase] at found
      split at found
      · cases found
      · exact .inl found
  | clear => cases found
  | contains | length | isEmpty | capacity | describe => exact .inl found

theorem released_eq_some_iff {insertion : Insertion State} {state old : State} :
    insertion.released state = some old ↔
      old ≠ state ∧ ∃ entry, insertion.displaced = some entry ∧ entry.state = old := by
  unfold Insertion.released
  cases insertion.displaced with
  | none => simp
  | some entry =>
      by_cases same : entry.state = state
      · simp [same, eq_comm]
      · simp only [same, if_false, Option.some.injEq]
        constructor
        · rintro rfl
          exact ⟨same, entry, rfl, rfl⟩
        · rintro ⟨-, _, rfl, rfl⟩
          rfl

theorem released_of_disposed {cache : Cache State} {key : ExecutionKey} {state old : State}
    {taskList : String} {length : Nat}
    (disposed : (old, length) ∈ (cache.perform (.put key state taskList)).disposed) :
    (cache.insert key state taskList).released state = some old := by
  simp only [perform, put, List.mem_map, Option.mem_toList, Prod.mk.injEq] at disposed
  obtain ⟨_, released, rfl, -⟩ := disposed
  exact released

omit [DecidableEq State] in
/-- The entry that an insertion displaces was cached, and nothing but the new state is cached
under its key afterwards. -/
theorem lost_of_displaced {cache : Cache State} (sound : cache.Sound) {key : ExecutionKey}
    {state : State} {taskList : String} {entry : Entry State}
    (displaced : (cache.insert key state taskList).displaced = some entry) :
    cache.find? entry.key = some entry ∧
      ∀ next, (cache.insert key state taskList).cache.find? entry.key = some next →
        next.state = state := by
  simp only [insert_eq, Insertion.displaced] at displaced
  cases cached : cache.find? key with
  | some old =>
      rw [cached] at displaced
      cases displaced
      obtain rfl := (mem_of_find? cached).2
      refine ⟨cached, ?_⟩
      intro next found
      simp only [find?_insert sound, if_true] at found
      cases found
      rfl
  | none =>
      rw [cached] at displaced
      have chosen : cache.victim? key = some entry := displaced
      obtain ⟨absent, -, oldest⟩ := (victim?_eq_some_iff sound).mp chosen
      have member : entry ∈ cache.entries := List.mem_of_mem_head? (by rw [oldest]; rfl)
      have other : key ≠ entry.key := by
        rintro rfl
        exact absent (key_mem_keys member)
      refine ⟨sound.find?_eq_some_iff.mpr ⟨member, rfl⟩, ?_⟩
      intro next found
      simp [find?_insert sound, other, chosen] at found

theorem lost_of_disposed {cache : Cache State} (sound : cache.Sound)
    {operation : CacheOperation State} {state : State} {length : Nat}
    (disposed : (state, length) ∈ (cache.perform operation).disposed) :
    ∃ key entry, cache.find? key = some entry ∧ entry.state = state ∧
      ∀ next, (cache.perform operation).cache.find? key = some next → next.state ≠ state := by
  cases operation with
  | put key stored taskList =>
      obtain ⟨unlike, entry, displaced, rfl⟩ :=
        released_eq_some_iff.mp (released_of_disposed disposed)
      obtain ⟨cached, lost⟩ := lost_of_displaced sound displaced
      refine ⟨entry.key, entry, cached, rfl, ?_⟩
      intro next found
      rw [lost next found]
      exact unlike.symm
  | remove key =>
      simp only [perform, remove, List.mem_map, Option.mem_toList, Prod.mk.injEq] at disposed
      obtain ⟨entry, cached, rfl, -⟩ := disposed
      refine ⟨key, entry, cached, rfl, ?_⟩
      intro next found
      simp [perform, remove, find?_erase] at found
  | clear =>
      simp only [perform, clear, List.mem_map, Prod.mk.injEq] at disposed
      obtain ⟨entry, member, rfl, -⟩ := disposed
      refine ⟨entry.key, entry, sound.find?_eq_some_iff.mpr ⟨member, rfl⟩, rfl, ?_⟩
      intro next found
      cases found
  | get | contains | length | isEmpty | capacity | describe => cases disposed

theorem not_disposed_of_put (cache : Cache State) (key : ExecutionKey) (state : State)
    (taskList : String) (length : Nat) :
    (state, length) ∉ (cache.perform (.put key state taskList)).disposed :=
  fun disposed => (released_eq_some_iff.mp (released_of_disposed disposed)).1 rfl

end DecisionWorker.Cache
