import DecisionWorker.Proofs.Backoff.Delays
import DecisionWorker.Proofs.Retry.Cancellation

set_option autoImplicit false

/-!
A retry loop under an exponential policy with a time limit.

The policy lets the loop wait no longer than the time that is left, and the timer adds less than
a millisecond to that. As calls start and end on whole milliseconds after the start of the loop,
all these roundings together never amount to more than rounding the time limit itself: this is
`add_timer_le`, which carries the bound from one call to the next. When the time is up, or too
short for another delay, the failure that the policy is asked about ends the loop.
-/

namespace DecisionWorker

namespace Duration

/-- A timer that is set in time, to no more than the time that is left, goes off in time. -/
theorem add_timer_le {elapsed delay limit : Duration} (whole : elapsed.Whole)
    (early : elapsed ≤ limit) (fits : delay ≤ limit - elapsed) :
    elapsed + delay.timer ≤ limit.roundUp := by
  have rounded := delay.timer_le_roundUp
  obtain ⟨milliseconds, exact⟩ := whole
  simp only [le_iff, nanoseconds_add, nanoseconds_sub, roundUp] at *
  omega

end Duration

namespace RetryLoop

variable {Value Failure : Type} {loop : RetryLoop Value Failure} {policy : ExponentialPolicy}
  {random : Nat → Nat}

theorem whole_wait (aftermath : Aftermath Value Failure) : aftermath.wait.Whole := by
  cases aftermath with
  | paused failure delay => exact delay.whole_timer
  | _ => exact Duration.whole_zero

theorem whole_elapsed (loop : RetryLoop Value Failure) (number : Nat) :
    (loop.elapsed number).Whole := by
  induction number with
  | zero => exact Duration.whole_roundUp _
  | succ number inductionHypothesis =>
      exact (inductionHypothesis.add (whole_wait _)).add (Duration.whole_roundUp _)

theorem consult_of_follows (follows : loop.plan.policy = policy.toRetryPolicy random)
    (consultation attempt : Nat) (elapsed : Duration) :
    loop.plan.policy.consult consultation attempt elapsed =
      .ok (policy.nextDelay (random consultation) attempt elapsed) := by
  rw [follows]
  rfl

/-- After every call from which the loop goes on, the wait ends before the time limit does. -/
theorem starts_succ_le (follows : loop.plan.policy = policy.toRetryPolicy random)
    {expiration : Duration} (limited : policy.expiration = some expiration) {number : Nat}
    (unfinished : (loop.aftermath number).result? = none) :
    loop.starts (number + 1) ≤ loop.start + expiration.roundUp := by
  have read := loop.reads_aftermath number
  rw [starts, ends, Duration.add_assoc]
  apply Nat.add_le_add_left
  generalize loop.aftermath number = aftermath at read unfinished
  cases read with
  | paused _ _ answer =>
      rw [consult_of_follows follows] at answer
      have waits := Except.ok.inj answer
      obtain ⟨early, fits⟩ := ExponentialPolicy.nextDelay_le_remaining limited waits
      exact Duration.add_timer_le (loop.whole_elapsed number) early fits
  | succeeded | rejected | stopped | crashed => cases unfinished

theorem starts_le_of_reaches (follows : loop.plan.policy = policy.toRetryPolicy random)
    {expiration : Duration} (limited : policy.expiration = some expiration) {number : Nat}
    (reaches : loop.Reaches number) :
    loop.starts number ≤ loop.start + expiration.roundUp := by
  cases number with
  | zero => exact Nat.le_add_right _ _
  | succ number =>
      exact starts_succ_le follows limited (reaches number (Nat.lt_succ_self number)).1

theorem mem_episode_of_answer {number : Nat} {answer : NextDelay}
    (asked : (loop.aftermath number).answer? = some answer) :
    (loop.ends number, .consulted (attemptAfter number) (loop.elapsed number) answer) ∈
      loop.episode number := by
  rw [episode]
  cases read : loop.aftermath number with
  | stopped | paused =>
      rw [read] at asked
      cases asked
      simp [Aftermath.steps]
  | succeeded | rejected | crashed =>
      rw [read] at asked
      cases asked

theorem mem_account_consulted_iff {calls attempt : Nat} {moment : Instant} {elapsed : Duration}
    {answer : NextDelay} :
    (moment, .consulted attempt elapsed answer) ∈ loop.account calls ↔
      ∃ number < calls, moment = loop.ends number ∧ attempt = attemptAfter number ∧
        elapsed = loop.elapsed number ∧ (loop.aftermath number).answer? = some answer := by
  constructor
  · intro noted
    obtain ⟨number, within, member⟩ := List.mem_flatMap.mp noted
    have read : (moment, attempt, elapsed, answer) ∈
        (loop.episode number).filterMap RetryStep.consulted? :=
      List.mem_filterMap.mpr ⟨_, member, rfl⟩
    rw [consulted_episode] at read
    obtain ⟨found, asked, same⟩ := List.mem_map.mp read
    cases same
    exact ⟨number, List.mem_range.mp within, rfl, rfl, rfl, Option.mem_toList.mp asked⟩
  · rintro ⟨number, within, rfl, rfl, rfl, asked⟩
    exact List.mem_flatMap.mpr
      ⟨number, List.mem_range.mpr within, mem_episode_of_answer asked⟩

theorem exists_answer (follows : loop.plan.policy = policy.toRetryPolicy random) {number : Nat}
    {failure : Failure} (outcome : (loop.call number).outcome = .error failure)
    (accepted : loop.plan.accepts failure = true) :
    ∃ answer, (loop.aftermath number).answer? = some answer := by
  have read := loop.reads_aftermath number
  generalize loop.aftermath number = aftermath at read
  cases read with
  | stopped => exact ⟨_, rfl⟩
  | paused => exact ⟨_, rfl⟩
  | succeeded returned => cases outcome.symm.trans returned
  | rejected failed hopeless =>
      cases outcome.symm.trans failed
      cases accepted.symm.trans hopeless
  | crashed _ _ crashes =>
      rw [consult_of_follows follows] at crashes
      cases crashes

/-- Asked when its time is spent, the policy stops, and the failure ends the loop. -/
theorem stopped_of_timeSpent (follows : loop.plan.policy = policy.toRetryPolicy random)
    {number : Nat} {answer : NextDelay} (spent : policy.TimeSpent (loop.elapsed number))
    (asked : (loop.aftermath number).answer? = some answer) :
    answer = .stop ∧ ∃ failure, loop.aftermath number = .stopped failure ∧
      (loop.call number).outcome = .error failure := by
  have read := loop.reads_aftermath number
  generalize loop.aftermath number = aftermath at read asked ⊢
  cases read with
  | stopped outcome =>
      cases asked
      exact ⟨rfl, _, rfl, outcome⟩
  | paused _ _ waits =>
      rw [consult_of_follows follows,
        ExponentialPolicy.nextDelay_eq_stop_iff.mpr (.inr spent)] at waits
      cases waits
  | succeeded | rejected | crashed => cases asked

theorem getLast?_account_of_stopped {number : Nat} {failure : Failure}
    (stopped : loop.aftermath number = .stopped failure) :
    (loop.account (number + 1)).getLast? =
      some (loop.ends number,
        .consulted (attemptAfter number) (loop.elapsed number) .stop) := by
  rw [account_succ, episode, stopped, Aftermath.steps, List.map_append, ← List.cons_append,
    ← List.append_assoc]
  exact List.getLast?_concat

theorem length_callsWithin {limit made : Nat} (makes : loop.Makes limit made) :
    (loop.callsWithin limit).length = made := by
  rw [callsWithin, makes.seen_eq, length_called_account]

/-- What a time limit means for a retry loop: for its calls, for the questions to its policy,
and for a failure after which less time is left than the shortest delay. -/
structure KeepsDeadline (loop : RetryLoop Value Failure) (limit : Nat)
    (expiration initial : Duration) : Prop where
  inTime : ∀ begun ∈ loop.callsWithin limit, begun ≤ loop.start + expiration.roundUp
  /-- The policy is told the time from the start of the loop to the end of the call. -/
  asked : ∀ number begun, (loop.callsWithin limit)[number]? = some begun →
    let ended := begun + (loop.call number).latency.roundUp
    ∀ failure, (loop.call number).outcome = .error failure →
      loop.plan.accepts failure = true →
        ∃ answer, (ended, .consulted (attemptAfter number) (ended - loop.start) answer) ∈
          loop.observed limit
  /-- No call and nothing else comes after a question asked too late. -/
  final : ∀ moment attempt elapsed answer,
    (moment, .consulted attempt elapsed answer) ∈ loop.observed limit →
    expiration ≤ elapsed ∨ expiration - elapsed < initial →
      (loop.observed limit).getLast? = some (moment, .consulted attempt elapsed .stop) ∧
        ∃ number failure, (loop.callsWithin limit).length = number + 1 ∧
          (loop.call number).outcome = .error failure ∧
          loop.run limit = some ⟨.failed (.operation failure), moment, loop.observed limit⟩

/-- A loop under an exponential policy with a time limit keeps its deadline, whatever chance
makes of the delays and whenever the token is cancelled. -/
theorem keeps_deadline (loop : RetryLoop Value Failure) {settings : ExponentialSettings}
    {policy : ExponentialPolicy} (yields : settings.Yields policy)
    (limited : settings.expiration ≠ .zero) {random : Nat → Nat}
    (follows : loop.plan.policy = policy.toRetryPolicy random) (limit : Nat) :
    loop.KeepsDeadline limit settings.expiration policy.initial := by
  obtain ⟨made, makes⟩ := loop.exists_makes limit
  have expires : policy.expiration = some settings.expiration := by
    rw [yields.expiration]
    exact if_neg limited
  constructor
  case inTime =>
    intro begun called
    obtain ⟨number, numbered⟩ := List.mem_iff_getElem?.mp called
    obtain ⟨within, rfl⟩ := makes.call_iff.mp numbered
    exact starts_le_of_reaches follows expires (makes.reaches within)
  case asked =>
    intro number begun called ended failure outcome accepted
    obtain ⟨within, rfl⟩ := makes.call_iff.mp called
    have ends : ended = loop.ends number := loop.starts_add_latency number
    obtain ⟨answer, answered⟩ := exists_answer follows outcome accepted
    rw [makes.seen_eq, ends, ends_sub_start]
    exact ⟨answer, mem_account_consulted_iff.mpr ⟨number, within, rfl, rfl, rfl, answered⟩⟩
  case final =>
    intro moment attempt elapsed answer noted short
    rw [makes.seen_eq] at noted
    obtain ⟨number, within, rfl, rfl, rfl, answered⟩ := mem_account_consulted_iff.mp noted
    have spent : policy.TimeSpent (loop.elapsed number) := ⟨_, expires, short⟩
    obtain ⟨rfl, failure, stopped, outcome⟩ := stopped_of_timeSpent follows spent answered
    have ceases : ¬ loop.Continues number := by
      rintro ⟨unfinished, -⟩
      rw [stopped] at unfinished
      cases unfinished
    have last := makes.eq_succ_of_not_continues within ceases
    refine ⟨?_, number, failure, ?_, outcome, ?_⟩
    · rw [makes.seen_eq, last]
      exact getLast?_account_of_stopped stopped
    · rw [length_callsWithin makes, last]
    · rw [makes.run_of_not_continues within ceases, conclusion, stopped]
      rfl

/-- A loop whose calls all fail after a quarter of a second, with two and a half seconds and a
nanosecond to succeed in. -/
def hurried : RetryLoop Nat Nat where
  plan :=
    { policy := ExponentialPolicy.toRetryPolicy
        (ExponentialSettings.clamp { expiration := ⟨2500000001⟩, jitter := .zero false })
        fun _ => 0
      retryable? := none }
  call number := ⟨.ofMilliseconds 250, false, .error number⟩
  start := .zero
  cancelAt := none

theorem keeps_deadline_to_the_millisecond :
    (⟨2500000001⟩ : Duration) ≠ .zero ∧
      hurried.callsWithin 5 = [.zero, .ofMilliseconds 1250, .ofMilliseconds 2501] ∧
      (.ofMilliseconds 2501 : Duration) ≤ .zero + Duration.roundUp ⟨2500000001⟩ ∧
      hurried.run 5 =
        some ⟨.failed (.operation 2), .ofMilliseconds 2751, hurried.observed 5⟩ := by
  have limited : (⟨2500000001⟩ : Duration) ≠ .zero := by decide
  have general := hurried.keeps_deadline (.inr rfl) limited rfl 5
  have calls : hurried.callsWithin 5 = [.zero, .ofMilliseconds 1250, .ofMilliseconds 2501] := by
    decide +kernel
  have inTime := general.inTime (.ofMilliseconds 2501) (by rw [calls]; simp)
  obtain ⟨answer, noted⟩ := general.asked 2 (.ofMilliseconds 2501) (by rw [calls]; rfl) 2 rfl rfl
  obtain ⟨-, number, failure, length, outcome, ran⟩ :=
    general.final _ _ _ _ noted (.inl (by decide))
  rw [calls] at length
  cases length
  cases outcome
  exact ⟨limited, calls, inTime, ran⟩

end RetryLoop

end DecisionWorker
