import DecisionWorker.Eviction.Dispatcher
import DecisionWorker.Proofs.Cache.Disposal

set_option autoImplicit false

/-!
Generations tell the insertions of a cache apart.

Only an insertion raises the counter, and the entry that it stores is the newest one. So no
two cached entries have the same generation, and a notice of an entry that has left stays
older than whatever is cached under its key afterwards.
-/

namespace DecisionWorker

variable {State : Type}

def CacheOperation.insertions : CacheOperation State → Nat
  | .put _ _ _ => 1
  | _ => 0

namespace Cache

/-- The generations of the entries are distinct, and none is above the counter. -/
structure Numbered (cache : Cache State) : Prop where
  distinct : ∀ {key other entry twin}, cache.find? key = some entry →
    cache.find? other = some twin → entry.generation = twin.generation → key = other
  bounded : ∀ {key entry}, cache.find? key = some entry → entry.generation ≤ cache.generation

theorem numbered_empty (capacity : Nat) : (empty capacity : Cache State).Numbered :=
  ⟨nofun, nofun⟩

theorem Numbered.nodup_generations {cache : Cache State} (numbered : cache.Numbered)
    (sound : cache.Sound) : (cache.entries.map Entry.generation).Nodup := by
  apply List.Nodup.map_on _ sound.nodup_entries
  intro entry inEntries twin isTwin same
  apply sound.eq_of_key inEntries isTwin
  exact numbered.distinct (sound.find?_eq_some_iff.mpr ⟨inEntries, rfl⟩)
    (sound.find?_eq_some_iff.mpr ⟨isTwin, rfl⟩) same

/-- The notice of an entry that has left a cache is older than the cache, and older than what
is cached under its key again. -/
structure Outlived (cache : Cache State) (eviction : Eviction) : Prop where
  bounded : eviction.generation ≤ cache.generation
  older : ∀ {entry}, cache.find? eviction.key = some entry →
    eviction.generation < entry.generation

variable [DecidableEq State]

theorem generation_perform (cache : Cache State) (operation : CacheOperation State) :
    (cache.perform operation).cache.generation = cache.generation + operation.insertions := by
  cases operation with
  | get key =>
      cases found : cache.find? key <;>
        simp [perform, get, touch, found, CacheOperation.insertions]
  | put key state taskList => simp [perform, put, insert_eq, CacheOperation.insertions]
  | remove | clear | contains | length | isEmpty | capacity | describe => rfl

theorem earlier_or_newest {cache : Cache State} (sound : cache.Sound)
    {operation : CacheOperation State} {key : ExecutionKey} {entry : Entry State}
    (found : (cache.perform operation).cache.find? key = some entry) :
    cache.find? key = some entry ∨
      (∃ state taskList, operation = .put key state taskList) ∧
        entry.generation = cache.generation + 1 := by
  rcases find?_perform sound found with before | rfl
  · exact .inl before
  · right
    refine ⟨⟨_, _, rfl⟩, ?_⟩
    simp only [perform, put, find?_insert sound, if_true, Option.some.injEq] at found
    rw [← found]

theorem Numbered.perform {cache : Cache State} (numbered : cache.Numbered) (sound : cache.Sound)
    (operation : CacheOperation State) : (cache.perform operation).cache.Numbered := by
  constructor
  · intro key other entry twin found foundTwin same
    rcases earlier_or_newest sound found with before | ⟨⟨_, _, stored⟩, newest⟩
    · rcases earlier_or_newest sound foundTwin with beforeTwin | ⟨-, newestTwin⟩
      · exact numbered.distinct before beforeTwin same
      · have bounded := numbered.bounded before
        omega
    · rcases earlier_or_newest sound foundTwin with beforeTwin | ⟨⟨_, _, storedTwin⟩, -⟩
      · have bounded := numbered.bounded beforeTwin
        omega
      · rw [stored] at storedTwin
        cases storedTwin
        rfl
  · intro key entry found
    rw [generation_perform]
    rcases earlier_or_newest sound found with before | ⟨⟨_, _, rfl⟩, newest⟩
    · have bounded := numbered.bounded before
      omega
    · exact Nat.le_of_eq newest

theorem Outlived.perform {cache : Cache State} {eviction : Eviction}
    (outlived : cache.Outlived eviction) (sound : cache.Sound)
    (operation : CacheOperation State) :
    (cache.perform operation).cache.Outlived eviction := by
  have bounded := outlived.bounded
  constructor
  · rw [generation_perform]
    omega
  · intro entry found
    rcases earlier_or_newest sound found with before | ⟨-, newest⟩
    · exact outlived.older before
    · omega

theorem lost_of_evicted {cache : Cache State} (sound : cache.Sound)
    {operation : CacheOperation State} {entry : Entry State}
    (evicted : (cache.perform operation).evicted = some entry) :
    cache.find? entry.key = some entry ∧
      (cache.perform operation).cache.find? entry.key = none := by
  cases operation with
  | put key state taskList =>
      simp only [perform, put, insert_eq] at evicted
      obtain ⟨absent, -, oldest⟩ := (victim?_eq_some_iff sound).mp evicted
      have member : entry ∈ cache.entries := List.mem_of_mem_head? (by rw [oldest]; rfl)
      have other : key ≠ entry.key := by
        rintro rfl
        exact absent (key_mem_keys member)
      refine ⟨sound.find?_eq_some_iff.mpr ⟨member, rfl⟩, ?_⟩
      simp [perform, put, find?_insert sound, other, evicted]
  | get | remove | clear | contains | length | isEmpty | capacity | describe => cases evicted

theorem outlived_of_evicted {cache : Cache State} (numbered : cache.Numbered)
    (sound : cache.Sound) {operation : CacheOperation State} {entry : Entry State}
    (evicted : (cache.perform operation).evicted = some entry) :
    (cache.perform operation).cache.Outlived entry.eviction := by
  obtain ⟨cached, gone⟩ := lost_of_evicted sound evicted
  constructor
  · have bounded := numbered.bounded cached
    rw [generation_perform]
    exact Nat.le_add_right_of_le bounded
  · intro next found
    rw [show entry.eviction.key = entry.key from rfl, gone] at found
    cases found

end Cache

end DecisionWorker
