import DecisionWorker.Cache.Basic
import DecisionWorker.Crash
import DecisionWorker.Text.Record

set_option autoImplicit false

/-!
The operations that users of a cache perform, and what each of them releases.

A state that leaves the cache is disposed once the change is complete, so it sees the
length that the cache has afterwards. A state that is put again while it is pushed out
stays in use and is not disposed.
-/

namespace DecisionWorker

inductive CacheOperation (State : Type) where
  | get (key : ExecutionKey)
  | put (key : ExecutionKey) (state : State) (taskList : String)
  | remove (key : ExecutionKey)
  | clear
  | contains (key : ExecutionKey)
  | length
  | isEmpty
  | capacity
  | describe

inductive CacheReply (State : Type) where
  | state (found : Option State)
  | evicted (key : Option ExecutionKey)
  | flag (holds : Bool)
  | count (number : Nat)
  | description (text : String)
  | done
  | crashed (crash : Crash)
  deriving DecidableEq

/-- What an operation does: the cache afterwards, the reply, the entry evicted to make room,
and the states disposed in order, each with the length it sees. -/
structure CacheOutcome (State : Type) where
  cache : Cache State
  reply : CacheReply State
  evicted : Option (Entry State)
  disposed : List (State × Nat)

namespace Cache

variable {State : Type}

def description (length capacity : Nat) : String :=
  Record.text "WorkflowExecutionCache"
    [("len", toString length), ("capacity", toString capacity)]

def get (cache : Cache State) (key : ExecutionKey) : CacheOutcome State :=
  ⟨cache.touch key, .state ((cache.find? key).map Entry.state), none, []⟩

def remove (cache : Cache State) (key : ExecutionKey) : CacheOutcome State :=
  let rest := cache.erase key
  { cache := rest
    reply := .flag (cache.contains key)
    evicted := none
    disposed := (cache.find? key).toList.map fun entry => (entry.state, rest.length) }

def clear (cache : Cache State) : CacheOutcome State :=
  { cache := cache.cleared
    reply := .done
    evicted := none
    disposed := cache.entries.map fun entry => (entry.state, 0) }

variable [DecidableEq State]

def Insertion.released (insertion : Insertion State) (state : State) : Option State :=
  match insertion.displaced with
  | none => none
  | some entry => if entry.state = state then none else some entry.state

def put (cache : Cache State) (key : ExecutionKey) (state : State) (taskList : String) :
    CacheOutcome State :=
  let insertion := cache.insert key state taskList
  { cache := insertion.cache
    reply := .evicted (insertion.evicted.map Entry.key)
    evicted := insertion.evicted
    disposed := (insertion.released state).toList.map fun old => (old, insertion.cache.length) }

def perform (cache : Cache State) : CacheOperation State → CacheOutcome State
  | .get key => cache.get key
  | .put key state taskList => cache.put key state taskList
  | .remove key => cache.remove key
  | .clear => cache.clear
  | .contains key => ⟨cache, .flag (cache.contains key), none, []⟩
  | .length => ⟨cache, .count cache.length, none, []⟩
  | .isEmpty => ⟨cache, .flag (cache.length == 0), none, []⟩
  | .capacity => ⟨cache, .count cache.capacity, none, []⟩
  | .describe => ⟨cache, .description (description cache.length cache.capacity), none, []⟩

end Cache

end DecisionWorker
