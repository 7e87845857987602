import DecisionWorker.Crash
import DecisionWorker.Duration

set_option autoImplicit false

/-!
Retry policies: how long to wait before the next attempt.

A policy answers a question, the number of the attempt and the time since the first
call. A policy that draws at random may answer the same question differently, so it is
also told how often it has been consulted before. A policy may crash instead of
answering.
-/

namespace DecisionWorker

inductive NextDelay where
  | wait (delay : Duration)
  | stop
  deriving DecidableEq

def NextDelay.delay? : NextDelay → Option Duration
  | .wait delay => some delay
  | .stop => none

/-- A retry policy. Attempts count from one: the first call is never delayed. -/
structure RetryPolicy where
  consult : (consultation attempt : Nat) → (elapsed : Duration) → Except Crash NextDelay

def greatestAttempt : Nat := 4294967295

def nextAttempt (attempt : Nat) : Nat := min (attempt + 1) greatestAttempt

end DecisionWorker
