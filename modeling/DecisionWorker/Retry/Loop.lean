import DecisionWorker.Retry.Plan
import DecisionWorker.Retry.Error

set_option autoImplicit false

/-!
A retry loop around an operation, and the trace it leaves.

The loop calls, deals with the failure, waits, and calls again. The wait is the only
place where it looks at the cancellation token: a token that is cancelled already, or no
later than the end of the wait, ends the loop there and then. A call in progress is
never interrupted.
-/

namespace DecisionWorker

/-- One call of the operation: how long it takes, whether it cancels the token just before
it returns, and what it returns. -/
structure Call (Value Failure : Type) where
  latency : Duration
  cancels : Bool
  outcome : Except Failure Value

/-- A retry loop: the calls in order, and the moment at which the token is cancelled from
outside. -/
structure RetryLoop (Value Failure : Type) where
  plan : RetryPlan Failure
  call : Nat → Call Value Failure
  start : Instant
  cancelAt : Option Instant

inductive RetryResult (Value Failure : Type) where
  | returned (value : Value)
  | failed (error : RetryError Failure)
  | crashed (crash : Crash)

/-- A loop that is about to call: the moment, the calls made, the failures counted, and
whether one of the calls has cancelled the token. -/
structure RetryProgress where
  now : Instant
  calls : Nat
  attempt : Nat
  cancelled : Bool

structure RetryReport (Value Failure : Type) where
  result : RetryResult Value Failure
  ended : Instant
  trace : List (Instant × RetryStep Failure)

/-- What one round of the loop leads to. -/
inductive RetryNext (Value Failure : Type) where
  | done (result : RetryResult Value Failure) (ended : Instant)
  | more (progress : RetryProgress)

def cancelledBy (cancelAt : Option Instant) (now : Instant) : Bool :=
  match cancelAt with
  | none => false
  | some moment => decide (moment ≤ now)

namespace RetryLoop

variable {Value Failure : Type}

def begin (loop : RetryLoop Value Failure) : RetryProgress := ⟨loop.start, 0, 0, false⟩

def rest (loop : RetryLoop Value Failure) (now : Instant) (calls attempt : Nat) (cancelled : Bool)
    (delay : Duration) : RetryNext Value Failure :=
  if cancelled || cancelledBy loop.cancelAt now then .done (.failed .cancelled) now
  else
    let wake := now + delay.timer
    match loop.cancelAt with
    | none => .more ⟨wake, calls, attempt, false⟩
    | some moment =>
        if moment ≤ wake then .done (.failed .cancelled) moment
        else .more ⟨wake, calls, attempt, false⟩

/-- One call and what follows it, up to the next call or the end. -/
def round (loop : RetryLoop Value Failure) (progress : RetryProgress) :
    List (Instant × RetryStep Failure) × RetryNext Value Failure :=
  let call := loop.call progress.calls
  let now := progress.now + call.latency.roundUp
  match call.outcome with
  | .ok value => ([(progress.now, .called)], .done (.returned value) now)
  | .error failure =>
      let considered :=
        loop.plan.consider progress.calls progress.attempt (now - loop.start) failure
      let steps := (progress.now, .called) :: considered.2.map fun step => (now, step)
      match considered.1 with
      | .giveUp => (steps, .done (.failed (.operation failure)) now)
      | .crashed crash => (steps, .done (.crashed crash) now)
      | .again attempt delay =>
          let cancelled := progress.cancelled || call.cancels
          (steps, loop.rest now (progress.calls + 1) attempt cancelled delay)

/-- The loop from some point on, unless it makes more than `limit` calls. -/
def runFrom (loop : RetryLoop Value Failure) :
    (limit : Nat) → RetryProgress → Option (RetryReport Value Failure)
  | 0, _ => none
  | limit + 1, progress =>
      match loop.round progress with
      | (steps, .done result ended) => some ⟨result, ended, steps⟩
      | (steps, .more next) =>
          match loop.runFrom limit next with
          | none => none
          | some report => some { report with trace := steps ++ report.trace }

def run (loop : RetryLoop Value Failure) (limit : Nat) : Option (RetryReport Value Failure) :=
  loop.runFrom limit loop.begin

end RetryLoop

end DecisionWorker
