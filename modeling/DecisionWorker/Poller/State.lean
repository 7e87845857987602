import DecisionWorker.Backpressure.Basic
import DecisionWorker.Poller.Task
import DecisionWorker.Retry.Plan
import DecisionWorker.Sticky.Move

set_option autoImplicit false

/-!
Poll loops at work: what they share, where each of them stands, and what can happen.

A loop first asks the backpressure how long to hold back, then polls, retrying transient
errors, and hands the task that it receives to the handler. All loops share the
backpressure and the cache.
-/

namespace DecisionWorker

structure Poller where
  taskList : String
  loops : Nat
  pollRetry : RetryPolicy
  backpressure : RetryPolicy
  resets : ResetService
  service : Nat → PollBehaviour
  handler : Nat → HandlerBehaviour

structure PollProgress where
  started : Instant
  attempt : Nat
  deriving DecidableEq

inductive LoopPhase where
  /-- About to ask how long to hold back. -/
  | throttle
  | holding (wake : Instant)
  | poll
  | calling (progress : PollProgress) (ends : Instant) (answer : PollAnswer)
  /-- Waiting to call again. -/
  | resting (progress : PollProgress) (wake : Instant)
  | received (task : DecisionTask)
  | handling (task : DecisionTask) (cached : Option StateName) (ends : Instant)
      (answer : HandlerAnswer)
  | ended
  deriving DecidableEq

/-- Whether a loop in this phase has a next move: it need not wait, or its wait is over, or a
cancellation ends it. -/
def LoopPhase.able (now : Instant) (cancelled : Bool) : LoopPhase → Bool
  | .throttle => true
  | .holding wake => cancelled || decide (wake ≤ now)
  | .poll => true
  | .calling _ ends _ => cancelled || decide (ends ≤ now)
  | .resting _ wake => cancelled || decide (wake ≤ now)
  | .received _ => true
  | .handling _ _ ends _ => decide (ends ≤ now)
  | .ended => false

/-- Where the task that runs the loops stands. It waits for every loop to end. -/
inductive RunnerPhase where
  | idle
  | joining (remaining : Nat)
  | finished (moment : Instant)
  deriving DecidableEq

def RunnerPhase.finishedAt? : RunnerPhase → Option Instant
  | .finished moment => some moment
  | _ => none

/-- Everything that changes while a poller works. Loops that have ended wait in `departed`
until the runner takes note of them. -/
structure PollerState where
  now : Instant
  cancelled : Bool
  sticky : StickyCache StateName
  shared : Backpressure
  consultations : Nat
  polls : Nat
  handled : Nat
  made : Nat
  loops : List LoopPhase
  departed : List (Option Crash)
  runner : RunnerPhase

inductive Occurrence where
  | sticky (event : StickyEvent StateName)
  | started
  | cancelled
  | throttled (loop : Nat) (delay : Option Duration)
  | called (loop : Nat)
  /-- A call failed, and the loop will call again. -/
  | retrying (loop attempt : Nat) (delay : Duration) (error : ServiceError)
  /-- A poll ended well, with a task or without. -/
  | polled (loop : Nat) (task : Option DecisionTask)
  /-- A poll ended with an error; the shared count includes it. -/
  | pollFailed (loop failures : Nat) (error : ServiceError)
  /-- A task came with the full history although its execution was cached. -/
  | discarded (loop : Nat) (execution : ExecutionKey)
  | handled (loop : Nat) (task : DecisionTask) (cached : Option StateName)
  | decided (loop : Nat) (task : DecisionTask) (answer : HandlerAnswer)
  | departed (loop : Nat) (crash : Option Crash)
  /-- The runner notices that a loop has crashed. -/
  | crashNoticed (crash : Crash)
  | finished
  /-- The runner crashes at the very end. -/
  | runnerCrashed (crash : Crash)
  deriving DecidableEq

/-- What has happened, and when, in order. -/
abbrev Trace := List (Instant × Occurrence)

def stamp (now : Instant) (occurrences : List Occurrence) : Trace :=
  occurrences.map fun occurrence => (now, occurrence)

namespace PollerState

def start (poller : Poller) (sticky : StickyCache StateName) : PollerState where
  now := .zero
  cancelled := false
  sticky
  shared := .start poller.backpressure
  consultations := 0
  polls := 0
  handled := 0
  made := 0
  loops := []
  departed := []
  runner := .idle

def cancel (current : PollerState) : PollerState × List Occurrence :=
  ({ current with cancelled := true }, [.cancelled])

def setLoop (current : PollerState) (loop : Nat) (phase : LoopPhase) : PollerState :=
  { current with loops := current.loops.set loop phase }

def perform (current : PollerState) (operation : CacheOperation StateName) :
    PollerState × CacheReply StateName × List Occurrence :=
  let outcome := current.sticky.perform operation
  ({ current with sticky := outcome.sticky }, outcome.reply,
    outcome.effects.map fun effect => .sticky (.effect effect))

end PollerState

end DecisionWorker
