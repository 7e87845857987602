import DecisionWorker.Proofs.Retry.Timeline
import DecisionWorker.Backoff.Schedule
import DecisionWorker.Retry.Log
import Mathlib.Algebra.Ring.Nat
import Mathlib.Data.List.Induction

set_option autoImplicit false

/-!
What a retry loop does that is left to itself.

All calls but the last one fail, and after each of them there is a wait. The calls, the
questions to the predicate and to the policy, what the caller is told, and what is logged
are read off the trace, each with its moment.
-/

namespace DecisionWorker

namespace RetryStep

variable {Failure : Type}

def called? : Instant × RetryStep Failure → Option Instant
  | (moment, called) => some moment
  | _ => none

def consulted? :
    Instant × RetryStep Failure → Option (Instant × Nat × Duration × NextDelay)
  | (moment, consulted attempt elapsed answer) => some (moment, attempt, elapsed, answer)
  | _ => none

end RetryStep

namespace Aftermath

variable {Value Failure : Type}

/-- What the policy says about the call, if it is asked and answers. -/
def answer? : Aftermath Value Failure → Option NextDelay
  | stopped _ => some .stop
  | paused _ delay => some (.wait delay)
  | _ => none

theorem cutShort_eq {aftermath : Aftermath Value Failure} {result : RetryResult Value Failure}
    (final : aftermath.result? = some result) : aftermath.cutShort = result := by
  rw [cutShort, final]
  rfl

end Aftermath

namespace RetryLoop

variable {Value Failure : Type}

theorem called_episode (loop : RetryLoop Value Failure) (number : Nat) :
    (loop.episode number).filterMap RetryStep.called? = [loop.starts number] := by
  rw [episode]
  cases loop.aftermath number <;> cases asked : loop.plan.retryable? <;>
    simp only [Aftermath.steps, RetryPlan.judgement, asked] <;> rfl

theorem called_account (loop : RetryLoop Value Failure) (calls : Nat) :
    (loop.account calls).filterMap RetryStep.called? = (List.range calls).map loop.starts := by
  rw [account, List.filterMap_flatMap]
  simp only [called_episode, ← List.map_eq_flatMap]

theorem length_called_account (loop : RetryLoop Value Failure) (calls : Nat) :
    ((loop.account calls).filterMap RetryStep.called?).length = calls := by
  rw [called_account, List.length_map, List.length_range]

theorem consulted_episode (loop : RetryLoop Value Failure) (number : Nat) :
    (loop.episode number).filterMap RetryStep.consulted? =
      (loop.aftermath number).answer?.toList.map fun answer =>
        (loop.ends number, attemptAfter number, loop.elapsed number, answer) := by
  rw [episode]
  cases loop.aftermath number <;> cases asked : loop.plan.retryable? <;>
    simp only [Aftermath.steps, RetryPlan.judgement, asked] <;> rfl

theorem continues_of_uncancelled {loop : RetryLoop Value Failure} {number : Nat}
    (untouched : loop.cancelAt = none) (quiet : (loop.call number).cancels = false)
    (unfinished : (loop.aftermath number).result? = none) : loop.Continues number := by
  refine ⟨unfinished, quiet, ?_⟩
  rw [untouched]
  rfl

end RetryLoop

end DecisionWorker
