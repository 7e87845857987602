import DecisionWorker.Cache.Operation
import DecisionWorker.Eviction.Dispatcher

set_option autoImplicit false

/-!
A cache together with the dispatcher that reports its evictions.

Every operation leaves a trace of what it brings about. Evictions are handed to the
dispatcher as they happen; the dispatcher moves on its own. The cache may become
unusable, if an insertion crashes half way, and it may be dropped; the dispatcher goes
on without it until its queue is empty.
-/

namespace DecisionWorker

inductive Standing (State : Type) where
  | live (cache : Cache State)
  | poisoned
  | dropped
  deriving DecidableEq

structure StickyCache (State : Type) where
  standing : Standing State
  dispatcher : Dispatcher
  deriving DecidableEq

inductive CacheEffect (State : Type) where
  | created (capacity : Nat)
  | evicted (eviction : Eviction)
  | queued (eviction : Eviction)
  /-- There is no dispatcher any more to take the notice. -/
  | undeliverable (eviction : Eviction)
  | cleared (count : Nat)
  /-- A state is disposed while the cache has the given length, none if it is being dropped. -/
  | disposed (state : State) (length : Option Nat)
  deriving DecidableEq

/-- Why a cache is not made. -/
inductive CreationFailure where
  | refused (error : SetupError)
  | crashed (crash : Crash)
  deriving DecidableEq

structure StickyOutcome (State : Type) where
  sticky : StickyCache State
  reply : CacheReply State
  effects : List (CacheEffect State)

namespace StickyCache

variable {State : Type}

def poison : Crash :=
  ⟨"workflow execution cache lock is poisoned: PoisonError \x7b .. \x7d"⟩

/-- The room for all entries is laid out at the start, as a table of slots. The number of
slots is a power of two, one in eight stays free, and a slot takes 17 bytes of fewer than
2 ^ 63, so there are 2 ^ 58 slots at most. -/
def greatestTable : Nat := 7 * 36028797018963968

def tableTooLarge : Crash := ⟨"Hash table capacity overflow"⟩

/-- Makes an empty cache. Its dispatcher needs a runtime to run in. -/
def create (capacity : Nat) (timeout : Duration) (runtime : Bool) :
    Except CreationFailure (StickyCache State) :=
  if capacity = 0 then .error (.refused .zeroCapacity)
  else if timeout = .zero then .error (.refused .zeroResetTimeout)
  else if !runtime then .error (.refused .noRuntime)
  else if greatestTable < capacity then .error (.crashed tableTooLarge)
  else .ok ⟨.live (.empty capacity), .start⟩

def length (sticky : StickyCache State) : Option (Except Crash Nat) :=
  match sticky.standing with
  | .live cache => some (.ok cache.length)
  | .poisoned => some (.error poison)
  | .dropped => none

/-- A notice is stale if its execution has been cached again since. -/
def stale (sticky : StickyCache State) (eviction : Eviction) : Bool :=
  match sticky.standing with
  | .live cache =>
      match cache.find? eviction.key with
      | none => false
      | some entry => decide (eviction.generation < entry.generation)
  | .poisoned => false
  | .dropped => false

def view (sticky : StickyCache State) : CacheView where
  stale := sticky.stale
  closed :=
    match sticky.standing with
    | .dropped => true
    | _ => false

def notify (dispatcher : Dispatcher) (eviction : Eviction) :
    Dispatcher × List (CacheEffect State) :=
  match dispatcher.send? eviction with
  | some dispatcher => (dispatcher, [.evicted eviction, .queued eviction])
  | none => (dispatcher, [.evicted eviction, .undeliverable eviction])

/-- Hands over the notice of an entry that had to make room. -/
def notifyAll (dispatcher : Dispatcher) : Option (Entry State) →
    Dispatcher × List (CacheEffect State)
  | none => (dispatcher, [])
  | some entry => notify dispatcher entry.eviction

variable [DecidableEq State]

/-- An operation on a cache that is in order. -/
def performLive (dispatcher : Dispatcher) (cache : Cache State)
    (operation : CacheOperation State) : StickyOutcome State :=
  let outcome := cache.perform operation
  let notified := notifyAll dispatcher outcome.evicted
  let cleared : List (CacheEffect State) :=
    match operation with
    | .clear => [.cleared outcome.disposed.length]
    | _ => []
  let disposed := outcome.disposed.map fun state => CacheEffect.disposed state.1 (some state.2)
  ⟨⟨.live outcome.cache, notified.1⟩, outcome.reply, notified.2 ++ cleared ++ disposed⟩

/-- An operation. A poisoned cache can only be described; nobody is left to use a dropped
one. -/
def perform (sticky : StickyCache State) (operation : CacheOperation State) :
    StickyOutcome State :=
  match sticky.standing with
  | .live cache => performLive sticky.dispatcher cache operation
  | .poisoned =>
      match operation with
      | .describe => ⟨sticky, .description (Cache.description 0 0), []⟩
      | _ => ⟨sticky, .crashed poison, []⟩
  | .dropped => ⟨sticky, .done, []⟩

/-- An insertion that crashes half way. -/
def crashInserting (sticky : StickyCache State) (crash : Crash) : StickyOutcome State :=
  match sticky.standing with
  | .live _ => ⟨{ sticky with standing := .poisoned }, .crashed crash, []⟩
  | .poisoned => ⟨sticky, .crashed poison, []⟩
  | .dropped => ⟨sticky, .done, []⟩

/-- Drops the cache: what is still cached is disposed, the least recently used state first. -/
def drop (sticky : StickyCache State) : StickyOutcome State :=
  let effects : List (CacheEffect State) :=
    match sticky.standing with
    | .live cache => cache.entries.map fun entry => .disposed entry.state none
    | .poisoned => []
    | .dropped => []
  ⟨{ sticky with standing := .dropped }, .done, effects⟩

def dispatch (sticky : StickyCache State) (service : ResetService) (now : Instant) :
    Option (StickyCache State × DispatchStep) :=
  (sticky.dispatcher.step service sticky.view now).map fun moved =>
    ({ sticky with dispatcher := moved.1 }, moved.2)

def settle (sticky : StickyCache State) (service : ResetService) (now : Instant) :
    StickyCache State × List (Instant × DispatchStep) :=
  let settled := sticky.dispatcher.settle service sticky.view now
  ({ sticky with dispatcher := settled.1 }, settled.2)

def advance (sticky : StickyCache State) (service : ResetService) (now target : Instant) :
    StickyCache State × List (Instant × DispatchStep) :=
  let advanced := sticky.dispatcher.advance service sticky.view now target
  ({ sticky with dispatcher := advanced.1 }, advanced.2)

end StickyCache

end DecisionWorker
