import DecisionWorker.Proofs.Cache.Entries
import Mathlib.Data.List.Induction

set_option autoImplicit false

/-!
What the users of a cache can remember of it: every operation with its reply.

A history knows when a key was used last and which state was stored under it last, without
looking at the cache. `Remembers` says that a cache agrees with its history: it finds under
each key what the history says is stored there, and its entries stand in the order of their
last uses. Every operation keeps the two in agreement.
-/

namespace DecisionWorker

structure CacheRecord (State : Type) where
  operation : CacheOperation State
  reply : CacheReply State

namespace CacheRecord

variable {State : Type}

/-- A key is touched when it is put, and when a get finds it. -/
def touches (record : CacheRecord State) (key : ExecutionKey) : Bool :=
  match record.operation, record.reply with
  | .put stored _ _, _ => decide (stored = key)
  | .get wanted, .state (some _) => decide (wanted = key)
  | _, _ => false

/-- What is stored under a key afterwards, given what was stored there before. -/
def storedAfter (record : CacheRecord State) (key : ExecutionKey) (before : Option State) :
    Option State :=
  match record.operation with
  | .put stored state _ =>
      if stored = key then some state
      else
        match record.reply with
        | .evicted (some victim) => if victim = key then none else before
        | _ => before
  | .remove removed => if removed = key then none else before
  | .clear => none
  | _ => before

end CacheRecord

abbrev CacheHistory (State : Type) := List (CacheRecord State)

namespace CacheHistory

variable {State : Type}

/-- The number of the last record that touches a key, counted from one; zero if there is
none. -/
def lastTouch (history : CacheHistory State) (key : ExecutionKey) : Nat :=
  (history.zipIdx 1).foldl
    (fun last numbered => if numbered.1.touches key then numbered.2 else last) 0

/-- The state of the last put of a key that has not been undone since. -/
def stored (history : CacheHistory State) (key : ExecutionKey) : Option State :=
  history.foldl (fun before record => record.storedAfter key before) none

theorem lastTouch_concat (history : CacheHistory State) (record : CacheRecord State)
    (key : ExecutionKey) :
    lastTouch (history ++ [record]) key =
      if record.touches key then history.length + 1 else lastTouch history key := by
  simp [lastTouch, List.zipIdx_append, Nat.add_comm]

theorem stored_concat (history : CacheHistory State) (record : CacheRecord State)
    (key : ExecutionKey) :
    stored (history ++ [record]) key = record.storedAfter key (stored history key) := by
  simp [stored]

theorem lastTouch_le_length (history : CacheHistory State) (key : ExecutionKey) :
    lastTouch history key ≤ history.length := by
  induction history using List.reverseRecOn with
  | nil => exact Nat.le_refl _
  | append_singleton history record inductionHypothesis =>
      rw [lastTouch_concat, List.length_append, List.length_singleton]
      split <;> omega

end CacheHistory

namespace Cache

variable {State : Type}

def OrderedBy (history : CacheHistory State) (entries : List (Entry State)) : Prop :=
  entries.Pairwise fun older newer => history.lastTouch older.key < history.lastTouch newer.key

theorem OrderedBy.sublist {history : CacheHistory State} {part entries : List (Entry State)}
    (ordered : OrderedBy history entries) (sublist : part.Sublist entries) :
    OrderedBy history part :=
  List.Pairwise.sublist sublist ordered

theorem OrderedBy.concat {history : CacheHistory State} {entries : List (Entry State)}
    (ordered : OrderedBy history entries) {record : CacheRecord State}
    (untouched : ∀ entry ∈ entries, record.touches entry.key = false) :
    OrderedBy (history ++ [record]) entries := by
  refine ordered.imp_of_mem ?_
  intro older newer inOlder inNewer earlier
  rw [CacheHistory.lastTouch_concat, CacheHistory.lastTouch_concat, untouched older inOlder,
    untouched newer inNewer]
  exact earlier

theorem OrderedBy.store {history : CacheHistory State} {entries : List (Entry State)}
    (ordered : OrderedBy history entries) {record : CacheRecord State} {entry : Entry State}
    (touched : ∀ key, record.touches key = decide (entry.key = key))
    (fresh : ∀ other ∈ entries, other.key ≠ entry.key) :
    OrderedBy (history ++ [record]) (entries ++ [entry]) := by
  have untouched : ∀ other ∈ entries, record.touches other.key = false := by
    intro other member
    simpa [touched] using Ne.symm (fresh other member)
  refine List.pairwise_append.mpr
    ⟨ordered.concat untouched, List.pairwise_singleton _ _, ?_⟩
  intro other member last isLast
  rw [List.mem_singleton.mp isLast, CacheHistory.lastTouch_concat, untouched other member,
    CacheHistory.lastTouch_concat, touched]
  have bounded := history.lastTouch_le_length other.key
  simp only [decide_true, if_true]
  exact Nat.lt_succ_of_le bounded

structure Remembers (history : CacheHistory State) (cache : Cache State) : Prop where
  stored : ∀ key, history.stored key = (cache.find? key).map Entry.state
  ordered : OrderedBy history cache.entries

theorem remembers_empty (capacity : Nat) : Remembers [] (empty capacity : Cache State) :=
  ⟨fun _ => rfl, List.Pairwise.nil⟩

theorem Remembers.concat_idle {history : CacheHistory State} {cache : Cache State}
    (remembers : Remembers history cache) {record : CacheRecord State}
    (untouched : ∀ key, record.touches key = false)
    (unchanged : ∀ key before, record.storedAfter key before = before) :
    Remembers (history ++ [record]) cache where
  stored key := by rw [CacheHistory.stored_concat, unchanged, remembers.stored]
  ordered := remembers.ordered.concat fun _ _ => untouched _

theorem Remembers.get {history : CacheHistory State} {cache : Cache State}
    (remembers : Remembers history cache) (sound : cache.Sound) (key : ExecutionKey) :
    Remembers (history ++ [⟨.get key, (cache.get key).reply⟩]) (cache.get key).cache := by
  cases found : cache.find? key with
  | none =>
      have same : (cache.get key).cache = cache := by simp [Cache.get, touch, found]
      rw [same]
      refine remembers.concat_idle ?_ fun _ _ => rfl
      simp [CacheRecord.touches, Cache.get, found]
  | some entry =>
      have sameKey := (mem_of_find? found).2
      constructor
      · intro other
        rw [CacheHistory.stored_concat]
        exact (remembers.stored other).trans (by rw [Cache.get, find?_touch sound])
      · simp only [Cache.get, touch_eq found]
        refine (remembers.ordered.sublist (cache.others_sublist key)).store ?_ ?_
        · simp [CacheRecord.touches, found, sameKey]
        · intro other member
          rw [sameKey]
          exact (mem_others.mp member).2

theorem Remembers.remove {history : CacheHistory State} {cache : Cache State}
    (remembers : Remembers history cache) (key : ExecutionKey) :
    Remembers (history ++ [⟨.remove key, (cache.remove key).reply⟩])
      (cache.remove key).cache where
  stored other := by
    rw [CacheHistory.stored_concat, Cache.remove, find?_erase, remembers.stored]
    by_cases same : key = other <;> simp [CacheRecord.storedAfter, same]
  ordered := (remembers.ordered.sublist (cache.others_sublist key)).concat fun _ _ => rfl

theorem Remembers.clear {history : CacheHistory State} {cache : Cache State} :
    Remembers (history ++ [⟨.clear, cache.clear.reply⟩]) cache.clear.cache where
  stored _ := CacheHistory.stored_concat _ _ _
  ordered := List.Pairwise.nil

variable [DecidableEq State]

theorem Remembers.put {history : CacheHistory State} {cache : Cache State}
    (remembers : Remembers history cache) (sound : cache.Sound) (key : ExecutionKey)
    (state : State) (taskList : String) :
    Remembers (history ++ [⟨.put key state taskList, (cache.put key state taskList).reply⟩])
      (cache.put key state taskList).cache := by
  constructor
  · intro other
    rw [CacheHistory.stored_concat, Cache.put, find?_insert sound, remembers.stored]
    simp only [CacheRecord.storedAfter, insert_eq]
    by_cases same : key = other
    · simp [same]
    · cases cache.victim? key with
      | none => simp [same]
      | some victim => by_cases gone : victim.key = other <;> simp [same, gone]
  · simp only [Cache.put, insert_eq]
    exact (remembers.ordered.sublist (cache.kept_sublist key)).store (fun _ => rfl)
      fun _ => key_ne_of_mem_kept

theorem Remembers.perform {history : CacheHistory State} {cache : Cache State}
    (remembers : Remembers history cache) (sound : cache.Sound)
    (operation : CacheOperation State) :
    Remembers (history ++ [⟨operation, (cache.perform operation).reply⟩])
      (cache.perform operation).cache := by
  cases operation with
  | get key => exact remembers.get sound key
  | put key state taskList => exact remembers.put sound key state taskList
  | remove key => exact remembers.remove key
  | clear => exact Remembers.clear
  | contains | length | isEmpty | capacity | describe =>
      exact remembers.concat_idle (fun _ => rfl) fun _ _ => rfl

def run (cache : Cache State) :
    List (CacheOperation State) → Cache State × CacheHistory State
  | [] => (cache, [])
  | operation :: later =>
      let outcome := cache.perform operation
      let others := outcome.cache.run later
      (others.1, ⟨operation, outcome.reply⟩ :: others.2)

theorem run_capacity (cache : Cache State) (operations : List (CacheOperation State)) :
    (cache.run operations).1.capacity = cache.capacity := by
  induction operations generalizing cache with
  | nil => rfl
  | cons operation later inductionHypothesis =>
      rw [run, inductionHypothesis, perform_capacity]

theorem run_sound {cache : Cache State} (sound : cache.Sound)
    (operations : List (CacheOperation State)) : (cache.run operations).1.Sound := by
  induction operations generalizing cache with
  | nil => exact sound
  | cons operation later inductionHypothesis =>
      exact inductionHypothesis (perform_sound sound operation)

theorem Remembers.run {history : CacheHistory State} {cache : Cache State}
    (remembers : Remembers history cache) (sound : cache.Sound)
    (operations : List (CacheOperation State)) :
    Remembers (history ++ (cache.run operations).2) (cache.run operations).1 := by
  induction operations generalizing history cache with
  | nil => simpa [Cache.run] using remembers
  | cons operation later inductionHypothesis =>
      have next := inductionHypothesis (remembers.perform sound operation)
        (perform_sound sound operation)
      rw [List.append_assoc] at next
      exact next

end Cache

end DecisionWorker
