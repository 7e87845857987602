import DecisionWorker.Cache.Operation
import Mathlib.Data.List.Nodup

set_option autoImplicit false

/-!
The entries of a cache after each of its operations.

An insertion keeps all entries but the one that it displaces and stores the new one behind
them: `kept` and `victim?` say which entries stay and which one has to make room. Every
operation keeps a cache `Sound`: no key is cached twice, and there is room for all entries.
-/

namespace DecisionWorker

namespace Cache

variable {State : Type}

structure Sound (cache : Cache State) : Prop where
  distinct : cache.keys.Nodup
  bounded : cache.length ≤ cache.capacity
  roomy : 0 < cache.capacity

theorem empty_sound {capacity : Nat} (positive : 0 < capacity) :
    (empty capacity : Cache State).Sound :=
  ⟨List.nodup_nil, Nat.zero_le _, positive⟩

theorem Sound.nodup_entries {cache : Cache State} (sound : cache.Sound) : cache.entries.Nodup :=
  List.Nodup.of_map _ sound.distinct

theorem length_keys (cache : Cache State) : cache.keys.length = cache.length :=
  List.length_map _

theorem mem_keys {cache : Cache State} {key : ExecutionKey} :
    key ∈ cache.keys ↔ ∃ entry ∈ cache.entries, entry.key = key :=
  List.mem_map

theorem key_mem_keys {cache : Cache State} {entry : Entry State}
    (member : entry ∈ cache.entries) : entry.key ∈ cache.keys :=
  List.mem_map_of_mem member

theorem find?_eq_none_iff {cache : Cache State} {key : ExecutionKey} :
    cache.find? key = none ↔ key ∉ cache.keys := by
  simp [find?, keys]

theorem isSome_find?_iff {cache : Cache State} {key : ExecutionKey} :
    (cache.find? key).isSome = true ↔ key ∈ cache.keys := by
  rw [← not_iff_not, ← find?_eq_none_iff]
  simp

theorem mem_of_find? {cache : Cache State} {key : ExecutionKey} {entry : Entry State}
    (found : cache.find? key = some entry) : entry ∈ cache.entries ∧ entry.key = key :=
  ⟨List.mem_of_find?_eq_some found, by simpa using List.find?_some found⟩

theorem Sound.eq_of_key {cache : Cache State} (sound : cache.Sound) {left right : Entry State}
    (inLeft : left ∈ cache.entries) (inRight : right ∈ cache.entries)
    (same : left.key = right.key) : left = right :=
  List.inj_on_of_nodup_map sound.distinct inLeft inRight same

theorem Sound.find?_eq_some_iff {cache : Cache State} (sound : cache.Sound)
    {key : ExecutionKey} {entry : Entry State} :
    cache.find? key = some entry ↔ entry ∈ cache.entries ∧ entry.key = key := by
  refine ⟨mem_of_find?, ?_⟩
  rintro ⟨member, rfl⟩
  have cached := isSome_find?_iff.mpr (key_mem_keys member)
  obtain ⟨found, search⟩ := Option.isSome_iff_exists.mp cached
  have other := mem_of_find? search
  rw [search, sound.eq_of_key other.1 member other.2]

theorem mem_others {cache : Cache State} {key : ExecutionKey} {entry : Entry State} :
    entry ∈ cache.others key ↔ entry ∈ cache.entries ∧ entry.key ≠ key := by
  simp [others]

theorem others_sublist (cache : Cache State) (key : ExecutionKey) :
    (cache.others key).Sublist cache.entries :=
  List.filter_sublist

theorem others_eq_entries {cache : Cache State} {key : ExecutionKey}
    (absent : key ∉ cache.keys) : cache.others key = cache.entries := by
  apply List.filter_eq_self.mpr
  intro entry member
  have other : entry.key ≠ key := fun same => absent (same ▸ key_mem_keys member)
  simpa using other

theorem length_others_lt {cache : Cache State} {key : ExecutionKey} {entry : Entry State}
    (found : cache.find? key = some entry) : (cache.others key).length < cache.length := by
  have member := mem_of_find? found
  exact List.length_filter_lt_length_iff_exists.mpr ⟨entry, member.1, by simp [member.2]⟩

/-- The entry that has to make room for a new key. -/
def victim? (cache : Cache State) (key : ExecutionKey) : Option (Entry State) :=
  if (cache.find? key).isSome || decide (cache.length < cache.capacity) then none
  else cache.entries.head?

/-- The entries that stay when a key is stored. -/
def kept (cache : Cache State) (key : ExecutionKey) : List (Entry State) :=
  if (cache.find? key).isSome then cache.others key
  else if cache.length < cache.capacity then cache.entries
  else cache.entries.tail

theorem insert_eq (cache : Cache State) (key : ExecutionKey) (state : State)
    (taskList : String) :
    cache.insert key state taskList =
      { cache :=
          { cache with
            entries := cache.kept key ++ [⟨key, state, taskList, cache.generation + 1⟩]
            generation := cache.generation + 1 }
        replaced := cache.find? key
        evicted := cache.victim? key } := by
  unfold insert victim? kept
  cases found : cache.find? key with
  | some old => simp
  | none =>
      by_cases room : cache.length < cache.capacity
      · simp [room]
      · cases listed : cache.entries <;> simp [room]

theorem kept_sublist (cache : Cache State) (key : ExecutionKey) :
    (cache.kept key).Sublist cache.entries := by
  unfold kept
  split
  · exact cache.others_sublist key
  · split
    · exact List.Sublist.refl _
    · exact List.tail_sublist _

theorem key_ne_of_mem_kept {cache : Cache State} {key : ExecutionKey} {entry : Entry State}
    (member : entry ∈ cache.kept key) : entry.key ≠ key := by
  by_cases cached : (cache.find? key).isSome = true
  · rw [kept, if_pos cached] at member
    exact (mem_others.mp member).2
  · rintro rfl
    have present := (cache.kept_sublist entry.key).subset member
    exact cached (isSome_find?_iff.mpr (key_mem_keys present))

theorem victim?_eq_some_iff {cache : Cache State} (sound : cache.Sound) {key : ExecutionKey}
    {victim : Entry State} :
    cache.victim? key = some victim ↔
      key ∉ cache.keys ∧ cache.length = cache.capacity ∧
        cache.entries.head? = some victim := by
  have bounded := sound.bounded
  unfold victim?
  rw [← find?_eq_none_iff]
  cases cache.find? key with
  | some old => simp
  | none =>
      have full : cache.length = cache.capacity ↔ cache.capacity ≤ cache.length := by omega
      simp [full]

theorem isSome_victim?_iff {cache : Cache State} (sound : cache.Sound) {key : ExecutionKey} :
    (cache.victim? key).isSome = true ↔
      key ∉ cache.keys ∧ cache.length = cache.capacity := by
  constructor
  · intro some
    obtain ⟨victim, found⟩ := Option.isSome_iff_exists.mp some
    have facts := (victim?_eq_some_iff sound).mp found
    exact ⟨facts.1, facts.2.1⟩
  · rintro ⟨absent, full⟩
    have filled : 0 < cache.entries.length := by
      have roomy := sound.roomy
      simp only [length] at full
      omega
    obtain ⟨oldest, rest, listed⟩ := List.exists_cons_of_length_pos filled
    have found : cache.victim? key = some oldest :=
      (victim?_eq_some_iff sound).mpr ⟨absent, full, by rw [listed]; rfl⟩
    rw [found]
    rfl

theorem mem_kept_iff {cache : Cache State} (sound : cache.Sound) {key : ExecutionKey}
    {entry : Entry State} :
    entry ∈ cache.kept key ↔
      entry ∈ cache.entries ∧ entry.key ≠ key ∧ cache.victim? key ≠ some entry := by
  by_cases cached : (cache.find? key).isSome = true
  · have none : cache.victim? key = none := by simp [victim?, cached]
    rw [kept, if_pos cached, mem_others, none]
    simp
  · have absent : key ∉ cache.keys := fun present => cached (isSome_find?_iff.mpr present)
    have other : entry ∈ cache.entries → entry.key ≠ key := by
      rintro member rfl
      exact absent (key_mem_keys member)
    rw [kept, if_neg cached]
    by_cases room : cache.length < cache.capacity
    · have none : cache.victim? key = none := by simp [victim?, room]
      rw [if_pos room, none]
      simpa using other
    · rw [if_neg room]
      have head : cache.victim? key = cache.entries.head? := by simp [victim?, cached, room]
      have distinct := List.Nodup.of_map _ sound.distinct
      rw [head]
      cases listed : cache.entries with
      | nil => simp
      | cons oldest rest =>
          rw [listed] at distinct other
          have fresh := (List.nodup_cons.mp distinct).1
          constructor
          · intro member
            refine ⟨List.mem_cons_of_mem _ member, other (List.mem_cons_of_mem _ member), ?_⟩
            rintro ⟨⟩
            exact fresh member
          · rintro ⟨member, -, unlike⟩
            rcases List.mem_cons.mp member with rfl | inRest
            · exact absurd rfl unlike
            · exact inRest

theorem length_kept_lt (cache : Cache State) (sound : cache.Sound) (key : ExecutionKey) :
    (cache.kept key).length < cache.capacity := by
  have bounded := sound.bounded
  have roomy := sound.roomy
  unfold kept
  split
  next cached =>
    obtain ⟨entry, found⟩ := Option.isSome_iff_exists.mp cached
    exact Nat.lt_of_lt_of_le (length_others_lt found) bounded
  next absent =>
    split
    next room => exact room
    next full =>
      simp only [length] at bounded
      rw [List.length_tail]
      omega

theorem Sound.store {cache : Cache State} (sound : cache.Sound) {entry : Entry State}
    {part : List (Entry State)} (sublist : part.Sublist cache.entries)
    (fresh : ∀ other ∈ part, other.key ≠ entry.key) (room : part.length < cache.capacity)
    (generation : Nat) : (Cache.mk cache.capacity (part ++ [entry]) generation).Sound where
  distinct := by
    have unique : (part.map Entry.key).Nodup := sound.distinct.sublist (sublist.map Entry.key)
    simp only [keys, List.map_append, List.map_cons, List.map_nil]
    refine List.nodup_append.mpr ⟨unique, List.nodup_singleton _, ?_⟩
    intro left inPart right last
    obtain ⟨other, member, rfl⟩ := List.mem_map.mp inPart
    rw [List.mem_singleton.mp last]
    exact fresh other member
  bounded := by
    simp only [length, List.length_append, List.length_singleton]
    omega
  roomy := sound.roomy

theorem Sound.restrict {cache : Cache State} (sound : cache.Sound)
    {part : List (Entry State)} (sublist : part.Sublist cache.entries) :
    (Cache.mk cache.capacity part cache.generation).Sound where
  distinct := sound.distinct.sublist (sublist.map Entry.key)
  bounded := Nat.le_trans sublist.length_le sound.bounded
  roomy := sound.roomy

theorem touch_eq {cache : Cache State} {key : ExecutionKey} {entry : Entry State}
    (found : cache.find? key = some entry) :
    cache.touch key = { cache with entries := cache.others key ++ [entry] } := by
  simp [touch, found]

theorem touch_sound {cache : Cache State} (sound : cache.Sound) (key : ExecutionKey) :
    (cache.touch key).Sound := by
  cases found : cache.find? key with
  | none => simpa [touch, found] using sound
  | some entry =>
      rw [touch_eq found]
      have same := (mem_of_find? found).2
      refine sound.store (cache.others_sublist key) ?_ ?_ cache.generation
      · intro other member
        rw [same]
        exact (mem_others.mp member).2
      · exact Nat.lt_of_lt_of_le (length_others_lt found) sound.bounded

theorem mem_touch_iff {cache : Cache State} (sound : cache.Sound) {key : ExecutionKey}
    {entry : Entry State} : entry ∈ (cache.touch key).entries ↔ entry ∈ cache.entries := by
  cases found : cache.find? key with
  | none => simp [touch, found]
  | some touched =>
      have member := mem_of_find? found
      rw [touch_eq found]
      simp only [List.mem_append, mem_others, List.mem_singleton]
      constructor
      · rintro (other | rfl)
        · exact other.1
        · exact member.1
      · intro present
        by_cases same : entry.key = key
        · exact .inr (sound.eq_of_key present member.1 (same.trans member.2.symm))
        · exact .inl ⟨present, same⟩

theorem insert_sound {cache : Cache State} (sound : cache.Sound) (key : ExecutionKey)
    (state : State) (taskList : String) : (cache.insert key state taskList).cache.Sound := by
  rw [insert_eq]
  exact sound.store (cache.kept_sublist key) (fun _ => key_ne_of_mem_kept)
    (cache.length_kept_lt sound key) _

theorem Sound.find?_congr {left right : Cache State} (soundLeft : left.Sound)
    (soundRight : right.Sound) {key : ExecutionKey}
    (agree : ∀ entry : Entry State, entry.key = key →
      (entry ∈ left.entries ↔ entry ∈ right.entries)) :
    left.find? key = right.find? key := by
  apply Option.ext
  intro entry
  rw [soundLeft.find?_eq_some_iff, soundRight.find?_eq_some_iff]
  exact and_congr_left (agree entry)

theorem find?_touch {cache : Cache State} (sound : cache.Sound) (key other : ExecutionKey) :
    (cache.touch key).find? other = cache.find? other :=
  (touch_sound sound key).find?_congr sound fun _ _ => mem_touch_iff sound

theorem find?_erase {cache : Cache State} (key other : ExecutionKey) :
    (cache.erase key).find? other = if key = other then none else cache.find? other := by
  unfold erase find? others
  rw [List.find?_filter]
  split
  next same =>
    subst same
    simp
  next unlike =>
    congr 1
    funext entry
    by_cases reached : entry.key = other
    · simp [reached, Ne.symm unlike]
    · simp [reached]

theorem find?_insert {cache : Cache State} (sound : cache.Sound) (key other : ExecutionKey)
    (state : State) (taskList : String) :
    (cache.insert key state taskList).cache.find? other =
      if key = other then some ⟨key, state, taskList, cache.generation + 1⟩
      else if (cache.victim? key).map Entry.key = some other then none
      else cache.find? other := by
  have after := insert_sound sound key state taskList
  have entries : (cache.insert key state taskList).cache.entries =
      cache.kept key ++ [⟨key, state, taskList, cache.generation + 1⟩] := by rw [insert_eq]
  split
  next same =>
    rw [after.find?_eq_some_iff, entries]
    exact ⟨by simp, same⟩
  next unlike =>
    split
    next gone =>
      obtain ⟨victim, chosen, rfl⟩ := Option.map_eq_some_iff.mp gone
      rw [find?_eq_none_iff, mem_keys, entries]
      rintro ⟨entry, member, same⟩
      rcases List.mem_append.mp member with stays | last
      · have facts := (mem_kept_iff sound).mp stays
        have oldest := ((victim?_eq_some_iff sound).mp chosen).2.2
        have listed := List.mem_of_mem_head? (by rw [oldest]; rfl)
        rw [sound.eq_of_key facts.1 listed same] at facts
        exact facts.2.2 chosen
      · rw [List.mem_singleton.mp last] at same
        exact unlike same
    next remains =>
      refine after.find?_congr sound ?_
      rintro entry rfl
      have unlikeVictim : cache.victim? key ≠ some entry := by
        intro chosen
        exact remains (by rw [chosen]; rfl)
      have old : entry ≠ ⟨key, state, taskList, cache.generation + 1⟩ := by
        rintro rfl
        exact unlike rfl
      simp [entries, mem_kept_iff sound, Ne.symm unlike, unlikeVictim, old]

section Operations

variable [DecidableEq State]

theorem perform_sound {cache : Cache State} (sound : cache.Sound)
    (operation : CacheOperation State) : (cache.perform operation).cache.Sound := by
  cases operation with
  | get key => exact touch_sound sound key
  | put key state taskList => exact insert_sound sound key state taskList
  | remove key => exact sound.restrict (cache.others_sublist key)
  | clear => exact sound.restrict (List.nil_sublist _)
  | contains | length | isEmpty | capacity | describe => exact sound

@[simp]
theorem perform_capacity (cache : Cache State) (operation : CacheOperation State) :
    (cache.perform operation).cache.capacity = cache.capacity := by
  cases operation with
  | get key =>
      cases found : cache.find? key <;> simp [perform, get, touch, found]
  | put key state taskList => simp [perform, put, insert_eq]
  | _ => rfl

end Operations

end Cache

end DecisionWorker
