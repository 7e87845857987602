import DecisionWorker.Proofs.Backoff.Delays
import DecisionWorker.Proofs.Backpressure.Alike
import DecisionWorker.Proofs.Backpressure.Row

set_option autoImplicit false

/-!
Backpressure that has given up.

An exponential policy gives up on a streak of failures when its attempts or its time are spent
(`Streak.Spent`). Neither comes back while the streak goes on: another failure only raises the
number of the attempt, and the streak only gets older. A success ends the streak, and then a
single failure is nothing that a policy gives up on, unless it never has the time to wait at all.
-/

namespace DecisionWorker

theorem ExponentialPolicy.steady_toRetryPolicy (policy : ExponentialPolicy)
    (random : Nat → Nat) : (policy.toRetryPolicy random).Steady :=
  fun _ _ _ _ => nofun

namespace Streak

variable {policy : ExponentialPolicy} {streak : Streak} {now later : Instant}

theorem attempt_le_failed (streak : Streak) (now : Instant) :
    streak.attempt ≤ (streak.failed now).attempt := by
  simp only [attempt, failed, greatest, greatestAttempt]
  omega

theorem elapsed_le (streak : Streak) (passes : now ≤ later) :
    streak.elapsed now ≤ streak.elapsed later := by
  unfold elapsed
  cases streak.since with
  | none => exact Nat.le_refl _
  | some since => exact Nat.sub_le_sub_right passes _

theorem elapsed_le_failed (streak : Streak) (now : Instant) :
    streak.elapsed now ≤ (streak.failed now).elapsed now := by
  unfold elapsed failed
  cases streak.since with
  | none => exact Nat.zero_le _
  | some since => exact Nat.le_refl _

/-- Failures that a policy has given up on by now. -/
structure Spent (policy : ExponentialPolicy) (now : Instant) (streak : Streak) : Prop where
  failing : streak.failures ≠ 0
  spent : policy.AttemptsSpent streak.attempt ∨ policy.TimeSpent (streak.elapsed now)

theorem Spent.mono (spent : streak.Spent policy now) (passes : now ≤ later) :
    streak.Spent policy later where
  failing := spent.failing
  spent := spent.spent.imp_right fun time => time.mono (streak.elapsed_le passes)

theorem Spent.failed (spent : streak.Spent policy now) : (streak.failed now).Spent policy now where
  failing := by
    simp only [Streak.failed, greatest]
    omega
  spent := spent.spent.imp
    (fun attempts => attempts.mono (streak.attempt_le_failed now))
    fun time => time.mono (streak.elapsed_le_failed now)

theorem Spent.failed_iterate (spent : streak.Spent policy now) (times : Nat) :
    ((fun streak => streak.failed now)^[times] streak).Spent policy now := by
  induction times generalizing streak with
  | zero => exact spent
  | succ times inductionHypothesis =>
      rw [Function.iterate_succ_apply]
      exact inductionHypothesis spent.failed

end Streak

namespace Backpressure

structure Follows (policy : RetryPolicy) (shared : Backpressure) : Prop where
  policy : shared.policy = policy
  usable : shared.poisoned = false

namespace Follows

variable {policy : RetryPolicy} {shared : Backpressure}

theorem delay (follows : shared.Follows policy) (steady : policy.Steady) (now : Instant) :
    (shared.delay now).shared.Follows policy := by
  by_cases quiet : shared.streak.failures = 0
  · rw [delay_of_failures_eq_zero follows.usable quiet]
    exact follows
  · cases consulted : shared.policy.consult shared.consultations shared.streak.attempt
        (shared.streak.elapsed now) with
    | ok answer =>
        rw [delay_of_answer follows.usable quiet consulted]
        exact ⟨follows.policy, follows.usable⟩
    | error crash =>
        rw [follows.policy] at consulted
        exact absurd consulted (steady _ _ _ _)

theorem act {wait : Wait} (follows : wait.shared.Follows policy) (now : Instant)
    (action : BystanderAction) : (wait.act now action).shared.Follows policy := by
  cases action with
  | failed =>
      simp only [Wait.act, failed_of_usable follows.usable]
      exact ⟨follows.policy, follows.usable⟩
  | succeeded =>
      simp only [Wait.act, succeeded_of_usable follows.usable]
      exact ⟨follows.policy, follows.usable⟩
  | cancel => exact follows

theorem attend {wait : Wait} (follows : wait.shared.Follows policy) (now : Instant)
    (visits : List Visit) : (wait.attend now visits).shared.Follows policy := by
  induction visits generalizing wait now with
  | nil => exact follows
  | cons visit rest inductionHypothesis =>
      simp only [Wait.attend]
      split
      next => exact inductionHypothesis (follows.act _ visit.action) _
      next => exact follows

theorem throttle (follows : shared.Follows policy) (steady : policy.Steady) (cancelled : Bool)
    (now : Instant) (visits : List Visit) :
    (shared.throttle cancelled now visits).shared.Follows policy := by
  have asked := follows.delay steady now
  simp only [Backpressure.throttle]
  cases (shared.delay now).delay with
  | error crash => exact asked
  | ok delay =>
      cases delay with
      | none => exact asked
      | some delay =>
          dsimp only
          split
          next => exact asked
          next =>
            split
            next => exact asked
            next => exact attend asked now visits

end Follows

end Backpressure

namespace BackpressureMoment

variable {moment : BackpressureMoment} {retryPolicy : RetryPolicy} {policy : ExponentialPolicy}
  {random : Nat → Nat}

theorem follows_use (follows : moment.shared.Follows retryPolicy) (steady : retryPolicy.Steady)
    (step : BackpressureUse) : (moment.use step).after.shared.Follows retryPolicy := by
  cases step with
  | failed times =>
      rw [use, Backpressure.failedTimes_of_usable follows.usable]
      exact ⟨follows.policy, follows.usable⟩
  | succeeded =>
      rw [use, Backpressure.succeeded_of_usable follows.usable]
      exact ⟨follows.policy, follows.usable⟩
  | failureCount => exact follows
  | delay => exact follows.delay steady moment.now
  | throttle visits => exact follows.throttle steady moment.cancelled moment.now visits
  | cancel => exact follows
  | advance time => exact follows

theorem follows_after (follows : moment.shared.Follows retryPolicy) (steady : retryPolicy.Steady)
    (uses : List BackpressureUse) : (moment.after uses).shared.Follows retryPolicy := by
  induction uses generalizing moment with
  | nil => exact follows
  | cons first rest inductionHypothesis =>
      exact inductionHypothesis (follows_use follows steady first)

section Asking

variable {shared : Backpressure} {consulted : Option Consultation} {delay : Option Duration}

theorem use_delay_of_delay
    (asked : moment.shared.delay moment.now = ⟨shared, consulted, .ok delay⟩) :
    moment.use .delay = ⟨{ moment with shared }, .delay delay, consulted⟩ := by
  simp only [use, asked, delayReply]

/-- Where there is nothing to wait for, nobody else gets to act meanwhile. -/
theorem use_throttle_of_delay
    (asked : moment.shared.delay moment.now = ⟨shared, consulted, .ok none⟩)
    (visits : List Visit) :
    moment.use (.throttle visits) = ⟨{ moment with shared }, .passed, consulted⟩ := by
  simp only [use, Backpressure.throttle, asked, throttleReply]

end Asking

section Stopped

structure Stopped (policy : ExponentialPolicy) (random : Nat → Nat)
    (moment : BackpressureMoment) : Prop where
  follows : moment.shared.Follows (policy.toRetryPolicy random)
  spent : moment.shared.streak.Spent policy moment.now

theorem Stopped.delay (stopped : Stopped policy random moment) :
    moment.shared.delay moment.now =
      ⟨{ moment.shared with consultations := moment.shared.consultations + 1 },
        some ⟨moment.shared.streak.attempt, moment.shared.streak.elapsed moment.now, .stop⟩,
        .ok none⟩ := by
  apply Backpressure.delay_of_answer stopped.follows.usable stopped.spent.failing
  rw [stopped.follows.policy]
  exact congrArg Except.ok (ExponentialPolicy.nextDelay_eq_stop_iff.mpr stopped.spent.spent)

theorem Stopped.use (stopped : Stopped policy random moment) {step : BackpressureUse}
    (unsuccessful : step ≠ .succeeded) : Stopped policy random (moment.use step).after := by
  have follows := follows_use stopped.follows (policy.steady_toRetryPolicy random) step
  refine ⟨follows, ?_⟩
  cases step with
  | failed times =>
      rw [BackpressureMoment.use, Backpressure.failedTimes_of_usable stopped.follows.usable]
      exact stopped.spent.failed_iterate times
  | succeeded => exact absurd rfl unsuccessful
  | failureCount => exact stopped.spent
  | delay =>
      rw [use_delay_of_delay stopped.delay]
      exact stopped.spent
  | throttle visits =>
      rw [use_throttle_of_delay stopped.delay]
      exact stopped.spent
  | cancel => exact stopped.spent
  | advance time => exact stopped.spent.mono (Nat.le_add_right _ _)

theorem Stopped.after (stopped : Stopped policy random moment) {uses : List BackpressureUse}
    (unsuccessful : .succeeded ∉ uses) : Stopped policy random (moment.after uses) := by
  induction uses generalizing moment with
  | nil => exact stopped
  | cons first rest inductionHypothesis =>
      rw [List.mem_cons, not_or] at unsuccessful
      exact inductionHypothesis (stopped.use (Ne.symm unsuccessful.1)) unsuccessful.2

/-- Callers can tell that a policy has given up: there are failures, but no wait. -/
theorem stopped_of_replies (follows : moment.shared.Follows (policy.toRetryPolicy random))
    {count : Nat} (failing : 0 < count)
    (counted : (moment.use .failureCount).reply = .count count)
    (unanswered : (moment.use .delay).reply = .delay none) : Stopped policy random moment := by
  have failures : moment.shared.streak.failures = count := by
    simpa [use, Backpressure.failureCount, follows.usable, countReply] using counted
  have some : moment.shared.streak.failures ≠ 0 := by omega
  let answer := policy.nextDelay (random moment.shared.consultations)
    moment.shared.streak.attempt (moment.shared.streak.elapsed moment.now)
  have answers : moment.shared.policy.consult moment.shared.consultations
      moment.shared.streak.attempt (moment.shared.streak.elapsed moment.now) = .ok answer := by
    rw [follows.policy]
    rfl
  rw [use_delay_of_delay (Backpressure.delay_of_answer follows.usable some answers)]
    at unanswered
  refine ⟨follows, some, ?_⟩
  have stops : answer = .stop := by
    cases answered : answer with
    | stop => rfl
    | wait delay =>
        rw [answered] at unanswered
        cases unanswered
  exact ExponentialPolicy.nextDelay_eq_stop_iff.mp stops

end Stopped

section Rested

structure Rested (retryPolicy : RetryPolicy) (moment : BackpressureMoment) : Prop where
  follows : moment.shared.Follows retryPolicy
  rested : moment.shared.streak = .empty

theorem Rested.delay (rested : Rested retryPolicy moment) :
    moment.shared.delay moment.now = ⟨moment.shared, none, .ok none⟩ := by
  apply Backpressure.delay_of_failures_eq_zero rested.follows.usable
  rw [rested.rested]
  rfl

theorem Rested.use (rested : Rested retryPolicy moment) {step : BackpressureUse}
    (unfailing : ∀ times, step ≠ .failed times) : Rested retryPolicy (moment.use step).after := by
  cases step with
  | failed times => exact absurd rfl (unfailing times)
  | succeeded =>
      rw [BackpressureMoment.use, Backpressure.succeeded_of_usable rested.follows.usable]
      exact ⟨⟨rested.follows.policy, rested.follows.usable⟩, rfl⟩
  | failureCount => exact rested
  | delay =>
      rw [use_delay_of_delay rested.delay]
      exact ⟨rested.follows, rested.rested⟩
  | throttle visits =>
      rw [use_throttle_of_delay rested.delay]
      exact ⟨rested.follows, rested.rested⟩
  | cancel => exact ⟨rested.follows, rested.rested⟩
  | advance time => exact ⟨rested.follows, rested.rested⟩

theorem Rested.after (rested : Rested retryPolicy moment) {uses : List BackpressureUse}
    (unfailing : ∀ times, .failed times ∉ uses) : Rested retryPolicy (moment.after uses) := by
  induction uses generalizing moment with
  | nil => exact rested
  | cons first rest inductionHypothesis =>
      have next : Rested retryPolicy (moment.use first).after :=
        rested.use fun times same => unfailing times (same ▸ List.mem_cons_self)
      exact inductionHypothesis next fun times membership =>
        unfailing times (List.mem_cons_of_mem first membership)

/-- The first failure is answered with a wait if there ever is the time for one. -/
theorem Rested.delay_of_failed (rested : Rested (policy.toRetryPolicy random) moment)
    (made : policy.Made) :
    ∃ delay, ((moment.use (.failed 1)).after.use .delay).reply = .delay delay ∧
      (delay = none ↔
        ∃ expiration, policy.expiration = some expiration ∧ expiration < policy.initial) := by
  have failing : (moment.use (.failed 1)).after =
      { moment with shared := { moment.shared with streak := ⟨1, some moment.now⟩ } } := by
    rw [BackpressureMoment.use, Backpressure.failedTimes_of_usable rested.follows.usable,
      rested.rested]
    rfl
  have now : moment.now - moment.now = Duration.zero :=
    congrArg Duration.mk (Nat.sub_self moment.now.nanoseconds)
  let answer := policy.nextDelay (random moment.shared.consultations) 1 .zero
  have answers : moment.shared.policy.consult moment.shared.consultations 1
      (moment.now - moment.now) = .ok answer := by
    rw [rested.follows.policy, now]
    rfl
  refine ⟨answer.delay?, ?_, ?_⟩
  · have failed : ({ moment.shared with streak := ⟨1, some moment.now⟩ } :
        Backpressure).poisoned = false := rested.follows.usable
    rw [failing, use_delay_of_delay
      (Backpressure.delay_of_answer failed Nat.one_ne_zero answers)]
  · have within : ¬ policy.AttemptsSpent 1 := by
      rintro ⟨some, few⟩
      omega
    have stops : answer.delay? = none ↔ answer = .stop := by
      cases answer <;> simp [NextDelay.delay?]
    rw [stops, ← ExponentialPolicy.timeSpent_zero_iff made,
      ExponentialPolicy.nextDelay_eq_stop_iff]
    exact or_iff_right within

end Rested

/-- A policy that has once given up on some failures keeps to it whatever happens, until there is
a success. The failure after a success is then no reason to give up, unless all the time that the
policy has is less than it waits at first. -/
theorem stays_stopped_until_success (made : policy.Made) (random : Nat → Nat)
    (before : List BackpressureUse) :
    let moment := (start (policy.toRetryPolicy random)).after before
    (∀ count, 0 < count → (moment.use .failureCount).reply = .count count →
      (moment.use .delay).reply = .delay none →
      ∀ later : List BackpressureUse, .succeeded ∉ later →
        (((moment.use .delay).after.after later).use .delay).reply = .delay none) ∧
    ∀ between : List BackpressureUse, (∀ times, .failed times ∉ between) →
      let again := (((moment.use .succeeded).after.after between).use (.failed 1)).after
      ∃ delay, (again.use .delay).reply = .delay delay ∧
        (delay = none ↔
          ∃ expiration, policy.expiration = some expiration ∧ expiration < policy.initial) := by
  intro moment
  have steady := policy.steady_toRetryPolicy random
  have begun : (start (policy.toRetryPolicy random)).shared.Follows
      (policy.toRetryPolicy random) := ⟨rfl, rfl⟩
  have follows := follows_after begun steady before
  refine ⟨?_, ?_⟩
  · intro count failing counted unanswered later unsuccessful
    have stopped := stopped_of_replies follows failing counted unanswered
    have asked : Stopped policy random (moment.use .delay).after := stopped.use nofun
    have still := asked.after unsuccessful
    rw [use_delay_of_delay still.delay]
  · intro between unfailing
    have rested : Rested (policy.toRetryPolicy random) (moment.use .succeeded).after := by
      refine ⟨follows_use follows steady .succeeded, ?_⟩
      rw [BackpressureMoment.use, Backpressure.succeeded_of_usable follows.usable]
      rfl
    exact (rested.after unfailing).delay_of_failed made

def threeAttempts : ExponentialPolicy :=
  ({ attempts := 3, expiration := .ofSeconds 5 } : ExponentialSettings).clamp

/-- The fourth failure in a row is one too many. -/
theorem stays_stopped_until_success_of_attempts :
    let moment := (start (threeAttempts.toRetryPolicy id)).after
      [.failed 3, .advance (.ofMilliseconds 10), .failureCount, .failed 1]
    let later := [.failed 2, .advance (.ofSeconds 9), .throttle [⟨.zero, .failed⟩]]
    let again := (((moment.use .succeeded).after.after [.advance (.ofSeconds 1)]).use
      (.failed 1)).after
    threeAttempts.Made ∧ (moment.use .failureCount).reply = .count 4 ∧
      (moment.use .delay).reply = .delay none ∧
      (((moment.use .delay).after.after later).use .delay).reply = .delay none ∧
      ∃ delay, (again.use .delay).reply = .delay (some delay) := by
  intro moment later again
  have made : threeAttempts.Made := .clamped _
  obtain ⟨stays, restarts⟩ := stays_stopped_until_success made id
    [.failed 3, .advance (.ofMilliseconds 10), .failureCount, .failed 1]
  have counted : (moment.use .failureCount).reply = .count 4 := by decide
  have unanswered : (moment.use .delay).reply = .delay none := by decide
  refine ⟨made, counted, unanswered, ?_, ?_⟩
  · exact stays 4 (by decide) counted unanswered later (by simp [later])
  · obtain ⟨delay, answered, stops⟩ := restarts [.advance (.ofSeconds 1)] (by simp)
    cases delay with
    | some delay => exact ⟨delay, answered⟩
    | none =>
        obtain ⟨expiration, limited, short⟩ := stops.mp rfl
        cases limited
        exact absurd short (by decide)

end BackpressureMoment

end DecisionWorker
