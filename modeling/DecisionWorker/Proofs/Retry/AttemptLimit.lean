import DecisionWorker.Proofs.Retry.Deadline

set_option autoImplicit false

/-!
A retry loop under an exponential policy without a time limit.

Only the attempts can run out. They are counted from the first retry on, so a policy that allows
some number of attempts allows one more call. The count of a loop stays at the greatest attempt,
so a policy that allows as many as that never stops, and neither does one without a limit.
-/

namespace DecisionWorker

theorem attemptAfter_le (number : Nat) : attemptAfter number ≤ greatestAttempt :=
  Nat.min_le_right _ _

namespace ExponentialPolicy

variable {policy : ExponentialPolicy}

/-- The last call that is followed by a retry is the one whose number is the limit. -/
theorem attemptsSpent_attemptAfter_iff (short : policy.attempts < greatestAttempt)
    (number : Nat) :
    policy.AttemptsSpent (attemptAfter number) ↔
      0 < policy.attempts ∧ policy.attempts ≤ number := by
  simp only [AttemptsSpent, attemptAfter]
  omega

theorem not_attemptsSpent_of_unlimited
    (unlimited : policy.attempts = 0 ∨ policy.attempts = greatestAttempt) {attempt : Nat}
    (counted : attempt ≤ greatestAttempt) : ¬ policy.AttemptsSpent attempt := by
  rintro ⟨limited, more⟩
  omega

end ExponentialPolicy

def RetryReport.calls {Value Failure : Type} (report : RetryReport Value Failure) : Nat :=
  (report.trace.filterMap RetryStep.called?).length

namespace RetryLoop

variable {Value Failure : Type} {loop : RetryLoop Value Failure}

/-- A loop that nobody cancels and that is hopeful about every failure. -/
structure Patient (loop : RetryLoop Value Failure) : Prop where
  untouched : loop.cancelAt = none
  quiet : ∀ number, (loop.call number).cancels = false
  accepting : ∀ failure, loop.plan.accepts failure = true

def FailsBefore (loop : RetryLoop Value Failure) (number : Nat) : Prop :=
  ∀ earlier < number, ∃ failure, (loop.call earlier).outcome = .error failure

def FirstSuccess (loop : RetryLoop Value Failure) (number : Nat) (value : Value) : Prop :=
  loop.FailsBefore number ∧ (loop.call number).outcome = .ok value

/-- The loop makes so many calls, no more and no less, and then ends with this result. -/
def EndsAfter (loop : RetryLoop Value Failure) (calls : Nat) (result : RetryResult Value Failure) :
    Prop :=
  ∃ report, report.result = result ∧ report.calls = calls ∧
    ∀ limit, loop.run limit = if calls ≤ limit then some report else none

theorem endsAfter_of_final {last : Nat} {result : RetryResult Value Failure}
    (reaches : loop.Reaches last) (final : (loop.aftermath last).result? = some result) :
    loop.EndsAfter (last + 1) result := by
  have ceases : ¬ loop.Continues last := by
    rintro ⟨unfinished, -⟩
    cases final.symm.trans unfinished
  refine ⟨⟨(loop.aftermath last).cutShort, loop.conclusion last, loop.account (last + 1)⟩,
    Aftermath.cutShort_eq final, ?_, fun limit => ?_⟩
  · exact loop.length_called_account (last + 1)
  · split
    next enough => exact (loop.run_of_last enough reaches ceases).1
    next fewer =>
      have early : limit ≤ last := Nat.le_of_not_lt fewer
      exact (loop.run_of_reaches_limit fun number before =>
        reaches number (Nat.lt_of_lt_of_le before early)).1

theorem result?_of_returned {number : Nat} {value : Value}
    (outcome : (loop.call number).outcome = .ok value) :
    (loop.aftermath number).result? = some (.returned value) := by
  simp only [aftermath, aftermathAt, outcome]
  rfl

namespace Patient

variable {policy : ExponentialPolicy} {random : Nat → Nat} {number : Nat} {failure : Failure}

theorem result?_of_spent (patient : loop.Patient)
    (follows : loop.plan.policy = policy.toRetryPolicy random)
    (outcome : (loop.call number).outcome = .error failure)
    (spent : policy.AttemptsSpent (attemptAfter number)) :
    (loop.aftermath number).result? = some (.failed (.operation failure)) := by
  have stops : policy.nextDelay (random number) (attemptAfter number) (loop.elapsed number) =
      .stop := ExponentialPolicy.nextDelay_eq_stop_iff.mpr (.inl spent)
  simp only [aftermath, aftermathAt, outcome, patient.accepting, consult_of_follows follows, stops,
    if_true]
  rfl

theorem continues (patient : loop.Patient)
    (follows : loop.plan.policy = policy.toRetryPolicy random)
    (unlimited : policy.expiration = none)
    (outcome : (loop.call number).outcome = .error failure)
    (left : ¬ policy.AttemptsSpent (attemptAfter number)) : loop.Continues number := by
  apply continues_of_uncancelled patient.untouched (patient.quiet number)
  have goesOn : policy.nextDelay (random number) (attemptAfter number) (loop.elapsed number) ≠
      .stop := ExponentialPolicy.nextDelay_ne_stop unlimited left
  simp only [aftermath, aftermathAt, outcome, patient.accepting, consult_of_follows follows,
    if_true]
  split
  next => rfl
  next stops => cases goesOn (Except.ok.inj stops)
  next crashes => cases crashes

theorem reaches (patient : loop.Patient)
    (follows : loop.plan.policy = policy.toRetryPolicy random)
    (unlimited : policy.expiration = none) (fails : loop.FailsBefore number)
    (left : ∀ earlier < number, ¬ policy.AttemptsSpent (attemptAfter earlier)) :
    loop.Reaches number := by
  intro earlier before
  obtain ⟨failure, outcome⟩ := fails earlier before
  exact patient.continues follows unlimited outcome (left earlier before)

end Patient

/-- Without a time limit a loop goes on until it succeeds or its attempts are used up. -/
theorem ends_with_success_or_attempts (loop : RetryLoop Value Failure)
    {settings : ExponentialSettings} {policy : ExponentialPolicy}
    (yields : settings.Yields policy) (unlimited : settings.expiration = .zero)
    {random : Nat → Nat} (follows : loop.plan.policy = policy.toRetryPolicy random)
    (patient : loop.Patient) :
    (0 < settings.attempts → settings.attempts < greatestAttempt →
      (∀ number value, loop.FirstSuccess number value → number ≤ settings.attempts →
        loop.EndsAfter (number + 1) (.returned value)) ∧
      (∀ failure, loop.FailsBefore settings.attempts →
        (loop.call settings.attempts).outcome = .error failure →
          loop.EndsAfter (settings.attempts + 1) (.failed (.operation failure)))) ∧
    (settings.attempts = 0 ∨ settings.attempts = greatestAttempt →
      (∀ random attempt elapsed, attempt ≤ greatestAttempt →
        policy.nextDelay random attempt elapsed ≠ .stop) ∧
      (∀ number value, loop.FirstSuccess number value →
        loop.EndsAfter (number + 1) (.returned value)) ∧
      ((∀ number, loop.FailsBefore number) →
        ∀ limit, loop.run limit = none ∧ (loop.callsWithin limit).length = limit)) := by
  have endless : policy.expiration = none := by
    rw [yields.expiration]
    exact if_pos unlimited
  rw [← yields.attempts]
  constructor
  · intro limited short
    have left : ∀ number ≤ policy.attempts, ∀ earlier < number,
        ¬ policy.AttemptsSpent (attemptAfter earlier) := by
      intro number allowed earlier before
      rw [ExponentialPolicy.attemptsSpent_attemptAfter_iff short]
      omega
    constructor
    · intro number value first allowed
      exact endsAfter_of_final (patient.reaches follows endless first.1 (left number allowed))
        (result?_of_returned first.2)
    · intro failure fails outcome
      have spent := (ExponentialPolicy.attemptsSpent_attemptAfter_iff short policy.attempts).mpr
        ⟨limited, Nat.le_refl _⟩
      exact endsAfter_of_final (patient.reaches follows endless fails (left _ (Nat.le_refl _)))
        (patient.result?_of_spent follows outcome spent)
  · intro free
    have left : ∀ attempt ≤ greatestAttempt, ¬ policy.AttemptsSpent attempt :=
      fun _ => ExponentialPolicy.not_attemptsSpent_of_unlimited free
    have reaches : ∀ number, loop.FailsBefore number → loop.Reaches number :=
      fun number fails => patient.reaches follows endless fails fun earlier _ =>
        left _ (attemptAfter_le earlier)
    refine ⟨?_, ?_, ?_⟩
    · intro random attempt elapsed counted
      exact ExponentialPolicy.nextDelay_ne_stop endless (left attempt counted)
    · intro number value first
      exact endsAfter_of_final (reaches number first.1) (result?_of_returned first.2)
    · intro fails limit
      obtain ⟨ran, seen⟩ := loop.run_of_reaches_limit (reaches limit (fails limit))
      rw [callsWithin, seen]
      exact ⟨ran, loop.length_called_account limit⟩

def stubborn (attempts : Nat) : RetryLoop Nat Nat where
  plan :=
    { policy := ExponentialPolicy.toRetryPolicy
        (ExponentialSettings.clamp { attempts, expiration := .zero }) id
      retryable? := none }
  call number := ⟨.ofMilliseconds 5, false, if number < 3 then .error number else .ok 7⟩
  start := .zero
  cancelAt := none

theorem stubborn_patient (attempts : Nat) : (stubborn attempts).Patient :=
  ⟨rfl, fun _ => rfl, fun _ => rfl⟩

theorem failsBefore_stubborn (attempts : Nat) {number : Nat} (early : number ≤ 3) :
    (stubborn attempts).FailsBefore number := by
  intro earlier before
  exact ⟨earlier, if_pos (Nat.lt_of_lt_of_le before early)⟩

/-- Three attempts are just enough, two are not, and no limit is no obstacle. -/
theorem ends_with_success_or_attempts_for_fourth_call :
    (stubborn 3).EndsAfter 4 (.returned 7) ∧
      (stubborn 2).EndsAfter 3 (.failed (.operation 2)) ∧
      (stubborn 0).EndsAfter 4 (.returned 7) := by
  have first : ∀ attempts, (stubborn attempts).FirstSuccess 3 7 :=
    fun attempts => ⟨failsBefore_stubborn attempts (Nat.le_refl 3), rfl⟩
  have three := (stubborn 3).ends_with_success_or_attempts (.inr rfl) rfl rfl (stubborn_patient 3)
  have two := (stubborn 2).ends_with_success_or_attempts (.inr rfl) rfl rfl (stubborn_patient 2)
  have free := (stubborn 0).ends_with_success_or_attempts (.inr rfl) rfl rfl (stubborn_patient 0)
  refine ⟨?_, ?_, ?_⟩
  · exact (three.1 (by decide) (by decide)).1 3 7 (first 3) (by decide)
  · exact (two.1 (by decide) (by decide)).2 2 (failsBefore_stubborn 2 (by decide)) rfl
  · exact (free.2 (.inl rfl)).2.1 3 7 (first 0)

end RetryLoop

end DecisionWorker
