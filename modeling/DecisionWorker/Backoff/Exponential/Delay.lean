import DecisionWorker.Backoff.Exponential
import DecisionWorker.Duration.Seconds

set_option autoImplicit false

/-!
The delays of an exponential policy.

Before chance comes in, a delay is the initial interval times a power of the
coefficient, and it never exceeds the maximum or the time that is left. If less time is
left than the initial interval, or the attempts are used up, the policy stops. Chance
then takes away at most the jitter fraction.
-/

namespace DecisionWorker.ExponentialPolicy

/-- Attempts beyond this one grow no further. -/
def greatestGrowth : Nat := 2147483647

/-- How often the coefficient is applied before the given attempt. -/
def growth (attempt : Nat) : Nat := min greatestGrowth (max attempt 1) - 1

/-- The initial interval, grown; the longest duration if that is no duration. -/
def scaled (policy : ExponentialPolicy) (attempt : Nat) : Duration :=
  let factor := policy.coefficient.power (growth attempt)
  (Duration.ofSeconds? (policy.initial.seconds.mul factor)).getD .longest

def capped (policy : ExponentialPolicy) (attempt : Nat) : Duration :=
  match policy.maximum with
  | none => policy.scaled attempt
  | some maximum => min (policy.scaled attempt) maximum

/-- The answer before chance comes in. -/
def baseDelay (policy : ExponentialPolicy) (attempt : Nat) (elapsed : Duration) : NextDelay :=
  if 0 < policy.attempts ∧ policy.attempts < attempt then .stop
  else
    match policy.expiration with
    | none => .wait (policy.capped attempt)
    | some expiration =>
        if expiration ≤ elapsed then .stop
        else
          let remaining := expiration - elapsed
          if remaining < policy.initial then .stop
          else .wait (min (policy.capped attempt) remaining)

def leastOf (policy : ExponentialPolicy) (delay : Duration) : Duration :=
  let share := Binary64.one.sub policy.jitter
  match Duration.ofSeconds? (delay.seconds.mul share) with
  | none => delay
  | some least => min least delay

/-- The point of an interval that a random number picks; numbers that differ by a multiple
of the interval's size pick the same point. -/
def pick (least greatest : Duration) (random : Nat) : Duration :=
  least + ⟨random % (greatest.nanoseconds - least.nanoseconds + 1)⟩

/-- The answer, with a random number to settle what is left to chance. -/
def nextDelay (policy : ExponentialPolicy) (random attempt : Nat) (elapsed : Duration) :
    NextDelay :=
  match policy.baseDelay attempt elapsed with
  | .stop => .stop
  | .wait delay =>
      if (Binary64.zero false).lt policy.jitter && decide (delay ≠ .zero) then
        .wait (pick (policy.leastOf delay) delay random)
      else .wait delay

def toRetryPolicy (policy : ExponentialPolicy) (random : Nat → Nat) : RetryPolicy where
  consult consultation attempt elapsed :=
    .ok (policy.nextDelay (random consultation) attempt elapsed)

end DecisionWorker.ExponentialPolicy
