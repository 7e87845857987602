import DecisionWorker.Backoff.Policy

set_option autoImplicit false

/-!
Backpressure: failures counted by many callers together, and a policy that turns the
count into a wait.

A success of anyone forgets all failures. If the policy crashes while it is consulted,
the count can no longer be trusted, and from then on every use of it crashes.
-/

namespace DecisionWorker

/-- The failures since the last success, and the moment of the first of them. -/
structure Streak where
  failures : Nat
  since : Option Instant
  deriving DecidableEq

def Streak.greatest : Nat := 18446744073709551615

def Streak.empty : Streak := ⟨0, none⟩

def Streak.failed (streak : Streak) (now : Instant) : Streak where
  failures := min (streak.failures + 1) greatest
  since := some (streak.since.getD now)

def Streak.attempt (streak : Streak) : Nat := min streak.failures greatestAttempt

def Streak.elapsed (streak : Streak) (now : Instant) : Duration :=
  match streak.since with
  | none => .zero
  | some since => now - since

/-- What callers share: the policy, the current streak, and how often the policy was
consulted. -/
structure Backpressure where
  policy : RetryPolicy
  streak : Streak
  consultations : Nat
  poisoned : Bool

structure Consultation where
  attempt : Nat
  elapsed : Duration
  answer : NextDelay

namespace Backpressure

def start (policy : RetryPolicy) : Backpressure := ⟨policy, .empty, 0, false⟩

def poison : Crash :=
  ⟨"retrier state lock is poisoned: PoisonError \x7b .. \x7d"⟩

def failed (shared : Backpressure) (now : Instant) : Except Crash Backpressure :=
  if shared.poisoned then .error poison
  else .ok { shared with streak := shared.streak.failed now }

def succeeded (shared : Backpressure) : Except Crash Backpressure :=
  if shared.poisoned then .error poison
  else .ok { shared with streak := .empty }

def failureCount (shared : Backpressure) : Except Crash Nat :=
  if shared.poisoned then .error poison else .ok shared.streak.failures

def failedTimes (shared : Backpressure) (now : Instant) : Nat → Except Crash Backpressure
  | 0 => .ok shared
  | times + 1 =>
      match shared.failed now with
      | .error crash => .error crash
      | .ok shared => shared.failedTimes now times

structure Reply where
  shared : Backpressure
  consulted : Option Consultation
  delay : Except Crash (Option Duration)

/-- How long a caller should wait now. Without failures there is no wait, and the policy is
not consulted. -/
def delay (shared : Backpressure) (now : Instant) : Reply :=
  if shared.poisoned then ⟨shared, none, .error poison⟩
  else if shared.streak.failures = 0 then ⟨shared, none, .ok none⟩
  else
    let attempt := shared.streak.attempt
    let elapsed := shared.streak.elapsed now
    let counted := { shared with consultations := shared.consultations + 1 }
    match shared.policy.consult shared.consultations attempt elapsed with
    | .error crash => ⟨{ counted with poisoned := true }, none, .error crash⟩
    | .ok answer => ⟨counted, some ⟨attempt, elapsed, answer⟩, .ok answer.delay?⟩

end Backpressure

end DecisionWorker
