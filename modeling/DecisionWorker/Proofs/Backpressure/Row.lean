import DecisionWorker.Backpressure.Basic
import Mathlib.Logic.Function.Iterate

set_option autoImplicit false

/-!
Backpressure by the failures in a row.

A streak is the moments of the failures since the last success, as far as backpressure remembers
them: how many there are, up to a bound, and which was the first (`Streak.ofRow`). What the calls
on backpressure do to a streak, and what they tell about it, they do to and tell about the row.
-/

namespace DecisionWorker

def RetryPolicy.Steady (policy : RetryPolicy) : Prop :=
  ∀ consultation attempt elapsed crash, policy.consult consultation attempt elapsed ≠ .error crash

def Streak.ofRow (row : List Instant) : Streak := ⟨min row.length greatest, row.head?⟩

namespace Streak

theorem failed_ofRow (row : List Instant) (now : Instant) :
    (ofRow row).failed now = ofRow (row ++ [now]) := by
  have counted : min (min row.length greatest + 1) greatest = min (row.length + 1) greatest := by
    omega
  simp only [failed, ofRow, List.length_append, List.length_singleton, counted]
  cases row <;> rfl

theorem attempt_ofRow (row : List Instant) :
    (ofRow row).attempt = min row.length greatestAttempt := by
  simp only [attempt, ofRow, greatest, greatestAttempt]
  omega

theorem failures_ofRow_eq_zero_iff {row : List Instant} : (ofRow row).failures = 0 ↔ row = [] := by
  simp only [ofRow, greatest, ← List.length_eq_zero_iff]
  omega

theorem failed_iterate_ofRow (row : List Instant) (now : Instant) (times : Nat) :
    (fun streak => streak.failed now)^[times] (ofRow row) =
      ofRow (row ++ List.replicate times now) := by
  induction times generalizing row with
  | zero => rw [List.replicate_zero, List.append_nil, Function.iterate_zero_apply]
  | succ times inductionHypothesis =>
      rw [Function.iterate_succ_apply, failed_ofRow, inductionHypothesis, List.append_assoc]
      rfl

end Streak

namespace Backpressure

variable {shared : Backpressure}

theorem failed_of_usable (usable : shared.poisoned = false) (now : Instant) :
    shared.failed now = .ok { shared with streak := shared.streak.failed now } := by
  rw [failed, usable]
  rfl

theorem succeeded_of_usable (usable : shared.poisoned = false) :
    shared.succeeded = .ok { shared with streak := .empty } := by
  rw [succeeded, usable]
  rfl

theorem delay_of_failures_eq_zero (usable : shared.poisoned = false)
    (none : shared.streak.failures = 0) (now : Instant) :
    shared.delay now = ⟨shared, Option.none, .ok Option.none⟩ := by
  simp only [delay, usable, none, Bool.false_eq_true, if_false, if_true]

theorem delay_of_answer (usable : shared.poisoned = false) (some : shared.streak.failures ≠ 0)
    {now : Instant} {answer : NextDelay}
    (answers : shared.policy.consult shared.consultations shared.streak.attempt
      (shared.streak.elapsed now) = .ok answer) :
    shared.delay now =
      ⟨{ shared with consultations := shared.consultations + 1 },
        Option.some ⟨shared.streak.attempt, shared.streak.elapsed now, answer⟩,
        .ok answer.delay?⟩ := by
  simp only [delay, usable, some, answers, Bool.false_eq_true, if_false]

theorem failedTimes_of_usable (usable : shared.poisoned = false) (now : Instant) (times : Nat) :
    shared.failedTimes now times =
      .ok { shared with streak := (fun streak => streak.failed now)^[times] shared.streak } := by
  induction times generalizing shared with
  | zero => rfl
  | succ times inductionHypothesis =>
      simp only [failedTimes, failed_of_usable usable]
      exact inductionHypothesis usable

theorem failedTimes_of_poisoned (poisoned : shared.poisoned = true) (now : Instant)
    (times : Nat) :
    shared.failedTimes now times = if times = 0 then .ok shared else .error poison := by
  cases times with
  | zero => rfl
  | succ times => simp [failedTimes, Backpressure.failed, poisoned]

theorem delay_of_empty (usable : shared.poisoned = false) (streak : shared.streak = .ofRow [])
    (now : Instant) : shared.delay now = ⟨shared, none, .ok none⟩ := by
  apply delay_of_failures_eq_zero usable
  rw [streak, Streak.failures_ofRow_eq_zero_iff]

/-- The policy is consulted once, and its answer is passed on. If it crashes, nothing can be done
any more. -/
theorem delay_of_row (usable : shared.poisoned = false) {first : Instant} {rest : List Instant}
    (streak : shared.streak = .ofRow (first :: rest)) (now : Instant) :
    let attempt := min (rest.length + 1) greatestAttempt
    let counted := { shared with consultations := shared.consultations + 1 }
    shared.delay now =
      match shared.policy.consult shared.consultations attempt (now - first) with
      | .ok answer => ⟨counted, some ⟨attempt, now - first, answer⟩, .ok answer.delay?⟩
      | .error crash => ⟨{ counted with poisoned := true }, none, .error crash⟩ := by
  intro attempt counted
  have some : shared.streak.failures ≠ 0 := by
    rw [streak, Ne, Streak.failures_ofRow_eq_zero_iff]
    exact List.cons_ne_nil first rest
  have number : shared.streak.attempt = attempt := by
    rw [streak, Streak.attempt_ofRow, List.length_cons]
  have since : shared.streak.elapsed now = now - first := by
    rw [streak]
    rfl
  simp only [delay, usable, some, number, since, Bool.false_eq_true, if_false]
  cases shared.policy.consult shared.consultations attempt (now - first) with
  | ok answer => simp only [counted, usable]
  | error crash => rfl

end Backpressure

end DecisionWorker
