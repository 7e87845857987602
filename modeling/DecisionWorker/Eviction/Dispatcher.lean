import DecisionWorker.Cache.Basic
import DecisionWorker.Duration
import DecisionWorker.ServiceError

set_option autoImplicit false

/-!
The dispatcher tells the service about evictions, one call at a time, in the order of
the evictions.

`step` is one move of the dispatcher at a given moment, and there is none while it has
to wait. A notice is dropped if it is stale when its turn comes. To look whether it is and
to begin the call are two moves, since nobody is kept from the cache in between. A call is
given up once it takes longer than the timeout, so no call can hold up the queue for good.
A call that crashes takes the dispatcher with it.
-/

namespace DecisionWorker

/-- A notice of an eviction: what the evicted entry was, without its state. -/
structure Eviction where
  key : ExecutionKey
  taskList : String
  generation : Nat
  deriving DecidableEq

def Entry.eviction {State : Type} (entry : Entry State) : Eviction :=
  ⟨entry.key, entry.taskList, entry.generation⟩

inductive ResetAnswer where
  | success
  | failure (error : ServiceError)
  | crash
  deriving DecidableEq

/-- What a call of the service would do if nobody gave it up: the time it takes and its
answer, or it never answers. -/
structure ResetBehaviour where
  latency : Option Duration
  answer : ResetAnswer

/-- The service that is told, by number of the call, and how long to wait for it. -/
structure ResetService where
  timeout : Duration
  behaviour : Nat → ResetBehaviour

inductive CallEnding where
  | answered (answer : ResetAnswer)
  | timedOut
  deriving DecidableEq

/-- The length of a call and how it ends. A call that takes exactly the timeout is answered.
The timeout limits the call and is no pause, so even the longest one is not cut. -/
def ResetService.call (service : ResetService) (number : Nat) : Duration × CallEnding :=
  let behaviour := service.behaviour number
  match behaviour.latency with
  | none => (service.timeout.roundUp, .timedOut)
  | some latency =>
      if latency.roundUp ≤ service.timeout.roundUp then
        (latency.roundUp, .answered behaviour.answer)
      else (service.timeout.roundUp, .timedOut)

inductive DispatcherPhase where
  | waiting
  /-- The notice was not stale, and its call is about to begin. -/
  | checked (eviction : Eviction)
  | calling (eviction : Eviction) (ends : Instant) (ending : CallEnding)
  | stopped
  | crashed
  deriving DecidableEq

structure Dispatcher where
  phase : DispatcherPhase
  queue : List Eviction
  calls : Nat
  deriving DecidableEq

inductive DispatchStep where
  | skipped (eviction : Eviction)
  /-- The notice is not stale. -/
  | checked (eviction : Eviction)
  | called (eviction : Eviction)
  | ended (eviction : Eviction) (ending : CallEnding)
  | stopped
  deriving DecidableEq

/-- What the dispatcher sees of the cache: which notices are stale, and whether more can
come. -/
structure CacheView where
  stale : Eviction → Bool
  closed : Bool

namespace Dispatcher

def start : Dispatcher := ⟨.waiting, [], 0⟩

def running (dispatcher : Dispatcher) : Bool :=
  match dispatcher.phase with
  | .waiting => true
  | .checked _ => true
  | .calling _ _ _ => true
  | .stopped => false
  | .crashed => false

/-- Hands in a notice; there is no dispatcher to take it once it has stopped or crashed. -/
def send? (dispatcher : Dispatcher) (eviction : Eviction) : Option Dispatcher :=
  if dispatcher.running then some { dispatcher with queue := dispatcher.queue ++ [eviction] }
  else none

def timer? (dispatcher : Dispatcher) : Option Instant :=
  match dispatcher.phase with
  | .calling _ ends _ => some ends
  | _ => none

def phaseAfter : CallEnding → DispatcherPhase
  | .answered .crash => .crashed
  | _ => .waiting

/-- The next move at the given moment, if the dispatcher need not wait for anything. -/
def step (dispatcher : Dispatcher) (service : ResetService) (view : CacheView) (now : Instant) :
    Option (Dispatcher × DispatchStep) :=
  match dispatcher.phase, dispatcher.queue with
  | .waiting, eviction :: rest =>
      if view.stale eviction then some ({ dispatcher with queue := rest }, .skipped eviction)
      else some (⟨.checked eviction, rest, dispatcher.calls⟩, .checked eviction)
  | .waiting, [] =>
      if view.closed then some ({ dispatcher with phase := .stopped }, .stopped) else none
  | .checked eviction, queue =>
      let call := service.call dispatcher.calls
      some (⟨.calling eviction (now + call.1) call.2, queue, dispatcher.calls + 1⟩,
        .called eviction)
  | .calling eviction ends ending, queue =>
      if ends ≤ now then
        let phase := phaseAfter ending
        let queue := if phase = .crashed then [] else queue
        some (⟨phase, queue, dispatcher.calls⟩, .ended eviction ending)
      else none
  | .stopped, _ => none
  | .crashed, _ => none

def settleWithin (service : ResetService) (view : CacheView) (now : Instant) :
    (moves : Nat) → Dispatcher → Dispatcher × List (Instant × DispatchStep)
  | 0, dispatcher => (dispatcher, [])
  | moves + 1, dispatcher =>
      match dispatcher.step service view now with
      | none => (dispatcher, [])
      | some (next, happened) =>
          let rest := settleWithin service view now moves next
          (rest.1, (now, happened) :: rest.2)

/-- All moves that are possible before the clock has to move: three for every notice, two for
the one in flight, and one to stop. -/
def settle (dispatcher : Dispatcher) (service : ResetService) (view : CacheView) (now : Instant) :
    Dispatcher × List (Instant × DispatchStep) :=
  settleWithin service view now (3 * dispatcher.queue.length + 3) dispatcher

def advanceWithin (service : ResetService) (view : CacheView) (target : Instant) :
    (timers : Nat) → (now : Instant) → Dispatcher → Dispatcher × List (Instant × DispatchStep)
  | 0, now, dispatcher => dispatcher.settle service view now
  | timers + 1, now, dispatcher =>
      let settled := dispatcher.settle service view now
      match settled.1.timer? with
      | none => settled
      | some ends =>
          if ends ≤ target then
            let rest := advanceWithin service view target timers ends settled.1
            (rest.1, settled.2 ++ rest.2)
          else settled

/-- Lets the clock run from `now` to `target`. Every notice means at most one more call to
wait for. -/
def advance (dispatcher : Dispatcher) (service : ResetService) (view : CacheView)
    (now target : Instant) : Dispatcher × List (Instant × DispatchStep) :=
  advanceWithin service view target (dispatcher.queue.length + 1) now dispatcher

end Dispatcher

end DecisionWorker
