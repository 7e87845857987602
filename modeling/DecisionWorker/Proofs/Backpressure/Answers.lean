import DecisionWorker.Proofs.Backpressure.Tally

set_option autoImplicit false

/-!
What backpressure tells its callers.

The failures since the last success decide every answer, and a question leaves no trace but a
consultation of the policy: later answers are those that would be given without it. A crash of the
policy is final. No call gets anything but a crash after it.
-/

namespace DecisionWorker

/-- A policy that nobody has consulted yet answers as the other one goes on to do after a number
of consultations. -/
def RetryPolicy.Resumes (fresh policy : RetryPolicy) (made : Nat) : Prop :=
  ∀ consultation, fresh.consult consultation = policy.consult (made + consultation)

/-- A policy whose answers are not drawn at random resumes itself. -/
theorem RetryPolicy.resumes_self {policy : RetryPolicy}
    (undrawn : ∀ consultation, policy.consult consultation = policy.consult 0) (made : Nat) :
    policy.Resumes policy made := by
  intro consultation
  rw [undrawn consultation, undrawn (made + consultation)]

/-- It has to look at the shared count, and cannot once that is no longer to be trusted. To report
no failures at all is no call. -/
def BackpressureUse.calls : BackpressureUse → Bool
  | failed times => times != 0
  | succeeded | failureCount | delay | throttle _ => true
  | cancel | advance _ => false

namespace Tally

def unasked (tally : Tally) : Tally := { tally with consultations := 0 }

theorem unasked_next_of_asks (tally : Tally) {step : BackpressureUse}
    (asks : step.asks = true) : (tally.next step).unasked = tally.unasked := by
  cases step with
  | failureCount => rfl
  | delay =>
      rw [next]
      split
      next => rfl
      next => rfl
  | _ => cases asks

theorem unasked_next_of_plain (tally : Tally) {step : BackpressureUse}
    (plain : step.asks = false) : (tally.next step).unasked = tally.unasked.next step := by
  cases step with
  | failureCount => cases plain
  | delay => cases plain
  | _ => rfl

theorem unasked_foldl_next (uses : List BackpressureUse) (tally : Tally) :
    (uses.foldl next tally).unasked = (uses.filter (!·.asks)).foldl next tally.unasked := by
  induction uses generalizing tally with
  | nil => rfl
  | cons first rest inductionHypothesis =>
      rw [List.foldl_cons, inductionHypothesis]
      by_cases asks : first.asks = true
      · rw [List.filter_cons_of_neg (by simp [asks]), unasked_next_of_asks tally asks]
      · have plain : first.asks = false := Bool.eq_false_iff.mpr asks
        rw [List.filter_cons_of_pos (by simp [plain]), unasked_next_of_plain tally plain,
          List.foldl_cons]

end Tally

namespace BackpressureMoment

section Poisoned

variable {moment : BackpressureMoment}

theorem use_of_poisoned (poisoned : moment.shared.poisoned = true) (step : BackpressureUse) :
    (moment.use step).after.shared = moment.shared ∧
      (step.calls = true → (moment.use step).reply = .crashed Backpressure.poison) := by
  have unanswered : ∀ now, moment.shared.delay now =
      ⟨moment.shared, none, .error Backpressure.poison⟩ := by
    intro now
    simp [Backpressure.delay, poisoned]
  cases step with
  | failed times =>
      rw [use, Backpressure.failedTimes_of_poisoned poisoned]
      by_cases silent : times = 0
      · simp [silent, record, BackpressureUse.calls]
      · simp [silent, record]
  | succeeded => simp [use, Backpressure.succeeded, poisoned, record]
  | failureCount => simp [use, Backpressure.failureCount, poisoned, countReply]
  | delay => simp [use, unanswered, delayReply]
  | throttle visits => simp [use, Backpressure.throttle, unanswered, throttleReply]
  | cancel => simp [use, BackpressureUse.calls]
  | advance time => simp [use, BackpressureUse.calls]

theorem shared_after_of_poisoned (poisoned : moment.shared.poisoned = true)
    (uses : List BackpressureUse) : (moment.after uses).shared = moment.shared := by
  induction uses generalizing moment with
  | nil => rfl
  | cons first rest inductionHypothesis =>
      have same := (use_of_poisoned poisoned first).1
      have poisonedNext : (moment.use first).after.shared.poisoned = true := by
        rw [same, poisoned]
      exact (inductionHypothesis poisonedNext).trans same

theorem crashed_of_poisoned (poisoned : moment.shared.poisoned = true)
    (uses : List BackpressureUse) {step : BackpressureUse} (calls : step.calls = true) :
    ((moment.after uses).use step).reply = .crashed Backpressure.poison := by
  refine (use_of_poisoned ?_ step).2 calls
  rw [shared_after_of_poisoned poisoned, poisoned]

end Poisoned

section Questions

variable {policy fresh : RetryPolicy} {moment left right : BackpressureMoment} {tally : Tally}

/-- Only a question makes a crash. -/
theorem Tallies.calm (tallies : Tallies policy moment tally) {step : BackpressureUse}
    (immediate : step.immediate = true) (plain : step.asks = false) :
    (moment.use step).reply.isCrash = false := by
  cases step with
  | failed times =>
      rw [use, Backpressure.failedTimes_of_usable tallies.usable]
      rfl
  | succeeded =>
      simp [use, Backpressure.succeeded, tallies.usable, record, BackpressureReply.isCrash]
  | failureCount => cases plain
  | delay => cases plain
  | throttle visits => cases immediate
  | cancel => rfl
  | advance time => rfl

theorem Tallies.after_plain (tallies : Tallies policy moment tally)
    {uses : List BackpressureUse} (immediate : ∀ use ∈ uses, use.immediate = true)
    (plain : ∀ use ∈ uses, use.asks = false) :
    Tallies policy (moment.after uses) (uses.foldl Tally.next tally) := by
  induction uses generalizing moment tally with
  | nil => exact tallies
  | cons first rest inductionHypothesis =>
      rw [List.forall_mem_cons] at immediate plain
      have calm := tallies.calm immediate.1 plain.1
      exact inductionHypothesis (tallies.next immediate.1 calm) immediate.2 plain.2

/-- Two moments with one tally are alike, whatever was asked before one of them. -/
theorem Tallies.alike (asked : Tallies policy left tally)
    (unasked : Tallies fresh right tally.unasked)
    (resumes : fresh.Resumes policy tally.consultations) : left.Alike right where
  now := asked.now.trans unasked.now.symm
  cancelled := asked.cancelled.trans unasked.cancelled.symm
  shared :=
    { streak := asked.streak.trans unasked.streak.symm
      poisoned := asked.usable.trans unasked.usable.symm
      policy := by
        intro more
        rw [asked.policy, asked.consultations, unasked.policy, unasked.consultations, resumes,
          Tally.unasked, Nat.zero_add] }

end Questions

structure AnswersBy (policy : RetryPolicy) (moment : BackpressureMoment) (tally : Tally) :
    Prop where
  /-- The count is that of the failures. -/
  count : moment.use .failureCount =
    ⟨moment, .count (min tally.row.length Streak.greatest), none⟩
  /-- Without failures nobody waits, and the policy is not consulted. -/
  spared : tally.row = [] → moment.use .delay = ⟨moment, .delay none, none⟩
  /-- Otherwise the policy is consulted once, and its answer is passed on. -/
  asked : ∀ first rest answer, tally.row = first :: rest →
    policy.consult tally.consultations (min tally.row.length greatestAttempt)
      (tally.now - first) = .ok answer →
    moment.use .delay =
      ⟨{ moment with
          shared := { moment.shared with consultations := moment.shared.consultations + 1 } },
        .delay answer.delay?,
        some ⟨min tally.row.length greatestAttempt, tally.now - first, answer⟩⟩
  /-- If the policy crashes over the question, so does the caller, and all who call later. -/
  crashed : ∀ first rest crash, tally.row = first :: rest →
    policy.consult tally.consultations (min tally.row.length greatestAttempt)
      (tally.now - first) = .error crash →
    (moment.use .delay).reply = .crashed crash ∧
      ∀ (later : List BackpressureUse) (step : BackpressureUse), step.calls = true →
        (((moment.use .delay).after.after later).use step).reply = .crashed Backpressure.poison

theorem Tallies.answersBy {policy : RetryPolicy} {moment : BackpressureMoment} {tally : Tally}
    (tallies : Tallies policy moment tally) : AnswersBy policy moment tally where
  count := by
    simp [use, Backpressure.failureCount, tallies.usable, tallies.streak, Streak.ofRow, countReply]
  spared := tallies.delay_of_empty
  asked first rest answer row answers := by
    rw [tallies.delay_of_row row]
    simp only [answers]
  crashed first rest crash row answers := by
    have fails := tallies.delay_of_row row
    simp only [answers] at fails
    rw [fails]
    refine ⟨rfl, ?_⟩
    intro later step calls
    exact crashed_of_poisoned rfl later calls

/-- Callers who only report and ask, in any order, are told what follows from the failures since
the last success until the policy crashes; and were there no questions among the uses, whatever
happens later would be the same. -/
theorem answers_by_recent_failures (policy : RetryPolicy) (uses : List BackpressureUse)
    (immediate : ∀ use ∈ uses, use.immediate = true)
    (calm : ∀ outcome ∈ (start policy).outcomes uses, outcome.reply.isCrash = false) :
    AnswersBy policy ((start policy).after uses) (Tally.ofUses uses) ∧
      ∀ fresh : RetryPolicy, fresh.Resumes policy (Tally.ofUses uses).consultations →
        ∀ later : List BackpressureUse,
          (((start policy).after uses).outcomes later).map BackpressureOutcome.told =
            (((start fresh).after (uses.filter (!·.asks))).outcomes later).map
              BackpressureOutcome.told := by
  have asked : Tallies policy ((start policy).after uses) (Tally.ofUses uses) :=
    (tallies_start policy).after immediate calm
  refine ⟨asked.answersBy, ?_⟩
  intro fresh resumes later
  have plainImmediate : ∀ use ∈ uses.filter (!·.asks), use.immediate = true := by
    intro use membership
    exact immediate use (List.mem_filter.mp membership).1
  have plain : ∀ use ∈ uses.filter (!·.asks), use.asks = false := by
    intro use membership
    simpa using (List.mem_filter.mp membership).2
  have unasked := (tallies_start fresh).after_plain plainImmediate plain
  rw [show Tally.start = Tally.start.unasked from rfl, ← Tally.unasked_foldl_next] at unasked
  exact (asked.alike unasked resumes).told later

def stretching : RetryPolicy :=
  ⟨fun _ attempt elapsed => .ok (.wait ⟨attempt * elapsed.nanoseconds⟩)⟩

def mixedUses : List BackpressureUse :=
  [.failed 1, .advance (.ofSeconds 5), .delay, .succeeded, .advance (.ofSeconds 1), .failed 1,
    .failureCount, .failed 1, .advance (.ofSeconds 2)]

theorem answers_by_recent_failures_after_success :
    (∀ use ∈ mixedUses, use.immediate = true) ∧
      (∀ outcome ∈ (start stretching).outcomes mixedUses, outcome.reply.isCrash = false) ∧
      (((start stretching).after mixedUses).use .delay).told =
        (.delay (some (.ofSeconds 4)),
          some ⟨2, .ofSeconds 2, .wait (.ofSeconds 4)⟩) ∧
      stretching.Resumes stretching 1 ∧
      (((start stretching).after mixedUses).outcomes [.delay]).map BackpressureOutcome.told =
        (((start stretching).after (mixedUses.filter (!·.asks))).outcomes [.delay]).map
          BackpressureOutcome.told := by
  have immediate : ∀ use ∈ mixedUses, use.immediate = true := by decide
  have calm : ∀ outcome ∈ (start stretching).outcomes mixedUses,
      outcome.reply.isCrash = false := by decide
  have resumes : stretching.Resumes stretching 1 := RetryPolicy.resumes_self (fun _ => rfl) 1
  obtain ⟨answers, same⟩ := answers_by_recent_failures stretching mixedUses immediate calm
  have asked := answers.asked (.ofSeconds 6) [.ofSeconds 6] (.wait (.ofSeconds 4)) (by decide)
    rfl
  refine ⟨immediate, calm, ?_, resumes, same stretching resumes [.delay]⟩
  rw [asked]
  rfl

end BackpressureMoment

end DecisionWorker
