import DecisionWorker.Execution.Key

set_option autoImplicit false

/-!
A bounded cache of execution states that makes room by dropping the least recently used
one.

The entries stand in the order of their last use, the oldest first. Every insertion gets
the next generation, whether or not it replaces an entry.
-/

namespace DecisionWorker

/-- A cached state, the task list it belongs to, and the number of the insertion that stored
it. -/
structure Entry (State : Type) where
  key : ExecutionKey
  state : State
  taskList : String
  generation : Nat
  deriving DecidableEq

structure Cache (State : Type) where
  capacity : Nat
  entries : List (Entry State)
  generation : Nat
  deriving DecidableEq

namespace Cache

variable {State : Type}

def empty (capacity : Nat) : Cache State := ⟨capacity, [], 0⟩

def length (cache : Cache State) : Nat := cache.entries.length

def keys (cache : Cache State) : List ExecutionKey := cache.entries.map Entry.key

def find? (cache : Cache State) (key : ExecutionKey) : Option (Entry State) :=
  cache.entries.find? fun entry => decide (entry.key = key)

def contains (cache : Cache State) (key : ExecutionKey) : Bool := (cache.find? key).isSome

/-- The entries of all other keys. -/
def others (cache : Cache State) (key : ExecutionKey) : List (Entry State) :=
  cache.entries.filter fun entry => decide (entry.key ≠ key)

/-- Moves an entry that is found to the most recently used end. -/
def touch (cache : Cache State) (key : ExecutionKey) : Cache State :=
  match cache.find? key with
  | none => cache
  | some entry => { cache with entries := cache.others key ++ [entry] }

/-- An insertion: the cache after it, and the entry that had to leave, because it has the
same key or because the cache was full. -/
structure Insertion (State : Type) where
  cache : Cache State
  replaced : Option (Entry State)
  evicted : Option (Entry State)

def insert (cache : Cache State) (key : ExecutionKey) (state : State) (taskList : String) :
    Insertion State :=
  let generation := cache.generation + 1
  let entry : Entry State := ⟨key, state, taskList, generation⟩
  match cache.find? key with
  | some old =>
      ⟨{ cache with entries := cache.others key ++ [entry], generation }, some old, none⟩
  | none =>
      if cache.length < cache.capacity then
        ⟨{ cache with entries := cache.entries ++ [entry], generation }, none, none⟩
      else
        match cache.entries with
        | [] => ⟨{ cache with entries := [entry], generation }, none, none⟩
        | oldest :: rest =>
            ⟨{ cache with entries := rest ++ [entry], generation }, none, some oldest⟩

def Insertion.displaced (insertion : Insertion State) : Option (Entry State) :=
  insertion.replaced.orElse fun _ => insertion.evicted

def erase (cache : Cache State) (key : ExecutionKey) : Cache State :=
  { cache with entries := cache.others key }

def cleared (cache : Cache State) : Cache State := { cache with entries := [] }

end Cache

end DecisionWorker
