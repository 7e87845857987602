import DecisionWorker.Backoff.Policy

set_option autoImplicit false

/-!
What to do about a failed call: give up, or wait and call again.

The predicate is asked first. Only a failure that it accepts is counted, and only then
is the policy consulted. Every question and its answer is noted.
-/

namespace DecisionWorker

/-- How failures of an operation are dealt with. Without a predicate every failure is
accepted. -/
structure RetryPlan (Failure : Type) where
  policy : RetryPolicy
  retryable? : Option (Failure → Bool)

inductive RetryStep (Failure : Type) where
  /-- The operation is called. -/
  | called
  /-- The predicate is asked. -/
  | judged (failure : Failure)
  /-- The policy is consulted. -/
  | consulted (attempt : Nat) (elapsed : Duration) (answer : NextDelay)
  /-- The caller is told of the wait that follows. -/
  | notified (attempt : Nat) (failure : Failure) (delay : Duration)
  /-- The wait is logged. -/
  | logged (attempt : Nat) (delay : Duration)

/-- What becomes of a failure. -/
inductive Verdict where
  | giveUp
  | again (attempt : Nat) (delay : Duration)
  | crashed (crash : Crash)

namespace RetryPlan

variable {Failure : Type}

def accepts (plan : RetryPlan Failure) (failure : Failure) : Bool :=
  match plan.retryable? with
  | none => true
  | some retryable => retryable failure

def judgement (plan : RetryPlan Failure) (failure : Failure) : List (RetryStep Failure) :=
  match plan.retryable? with
  | none => []
  | some _ => [.judged failure]

/-- Deals with a failure after `attempt` counted ones, and notes the steps on the way. -/
def consider (plan : RetryPlan Failure) (consultation attempt : Nat) (elapsed : Duration)
    (failure : Failure) : Verdict × List (RetryStep Failure) :=
  let judgement := plan.judgement failure
  if plan.accepts failure then
    let attempt := nextAttempt attempt
    match plan.policy.consult consultation attempt elapsed with
    | .error crash => (.crashed crash, judgement)
    | .ok .stop => (.giveUp, judgement ++ [.consulted attempt elapsed .stop])
    | .ok (.wait delay) =>
        (.again attempt delay,
          judgement ++
            [.consulted attempt elapsed (.wait delay), .notified attempt failure delay,
              .logged attempt delay])
  else (.giveUp, judgement)

end RetryPlan

end DecisionWorker
