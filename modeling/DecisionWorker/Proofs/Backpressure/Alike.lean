import DecisionWorker.Backpressure.Use

set_option autoImplicit false

/-!
Backpressure that no caller can tell apart.

`Alike` is a simulation: two sides with the same streak, whose policies give the same answers from
now on, stay alike under every use, and every caller is told the same. How often a policy was
consulted before, and which policy it is, do not matter.
-/

namespace DecisionWorker

namespace Backpressure

/-- The same streak, and the same answers of the policies from now on. -/
structure Alike (left right : Backpressure) : Prop where
  streak : left.streak = right.streak
  poisoned : left.poisoned = right.poisoned
  policy : ∀ more, left.policy.consult (left.consultations + more) =
    right.policy.consult (right.consultations + more)

/-- A call on both crashes, or leaves them alike. -/
inductive AlikeResults : Except Crash Backpressure → Except Crash Backpressure → Prop
  | crashed (crash : Crash) : AlikeResults (.error crash) (.error crash)
  | done {left right : Backpressure} (alike : left.Alike right) :
      AlikeResults (.ok left) (.ok right)

structure Reply.Alike (left right : Reply) : Prop where
  shared : left.shared.Alike right.shared
  consulted : left.consulted = right.consulted
  delay : left.delay = right.delay

namespace Alike

variable {left right : Backpressure}

/-- The streak may change as long as it changes on both sides. -/
theorem restarted (alike : left.Alike right) {leftStreak rightStreak : Streak}
    (same : leftStreak = rightStreak) :
    AlikeResults
      (if left.poisoned then .error poison else .ok { left with streak := leftStreak })
      (if right.poisoned then .error poison else .ok { right with streak := rightStreak }) := by
  by_cases poisoned : left.poisoned = true
  · rw [if_pos poisoned, if_pos (alike.poisoned ▸ poisoned)]
    exact .crashed poison
  · rw [if_neg poisoned, if_neg (alike.poisoned ▸ poisoned)]
    exact .done { alike with streak := same }

theorem failed (alike : left.Alike right) (now : Instant) :
    AlikeResults (left.failed now) (right.failed now) :=
  alike.restarted (congrArg (·.failed now) alike.streak)

theorem succeeded (alike : left.Alike right) : AlikeResults left.succeeded right.succeeded :=
  alike.restarted rfl

theorem failedTimes (alike : left.Alike right) (now : Instant) (times : Nat) :
    AlikeResults (left.failedTimes now times) (right.failedTimes now times) := by
  induction times generalizing left right with
  | zero => exact .done alike
  | succ times inductionHypothesis =>
      have results := alike.failed now
      unfold Backpressure.failedTimes
      generalize left.failed now = leftResult, right.failed now = rightResult at results
      cases results with
      | crashed crash => exact .crashed crash
      | done alike => exact inductionHypothesis alike

theorem failureCount (alike : left.Alike right) : left.failureCount = right.failureCount := by
  rw [Backpressure.failureCount, alike.poisoned, alike.streak]
  rfl

theorem consult (alike : left.Alike right) :
    left.policy.consult left.consultations = right.policy.consult right.consultations :=
  alike.policy 0

theorem counted (alike : left.Alike right) :
    Alike { left with consultations := left.consultations + 1 }
      { right with consultations := right.consultations + 1 } where
  streak := alike.streak
  poisoned := alike.poisoned
  policy more := by
    rw [Nat.add_assoc, Nat.add_assoc]
    exact alike.policy (1 + more)

theorem delay (alike : left.Alike right) (now : Instant) :
    (left.delay now).Alike (right.delay now) := by
  unfold Backpressure.delay
  simp only [alike.poisoned, alike.streak, alike.consult]
  split
  next => exact ⟨alike, rfl, rfl⟩
  next =>
    split
    next => exact ⟨alike, rfl, rfl⟩
    next =>
      cases right.policy.consult right.consultations right.streak.attempt
          (right.streak.elapsed now) with
      | ok answer => exact ⟨⟨rfl, rfl, alike.counted.policy⟩, rfl, rfl⟩
      | error crash => exact ⟨⟨rfl, rfl, alike.counted.policy⟩, rfl, rfl⟩

end Alike

end Backpressure

structure Wait.Alike (left right : Wait) : Prop where
  shared : left.shared.Alike right.shared
  ending : left.ending = right.ending
  cancelled : left.cancelled = right.cancelled

/-- What someone else reports meanwhile changes both, or is lost on both. -/
theorem Wait.Alike.notice {left right : Wait} (alike : left.Alike right)
    {leftResult rightResult : Except Crash Backpressure} :
    Backpressure.AlikeResults leftResult rightResult →
      Wait.Alike
        (match leftResult with
          | .error _ => left
          | .ok shared => { left with shared })
        (match rightResult with
          | .error _ => right
          | .ok shared => { right with shared }) := by
  intro results
  cases results with
  | crashed crash => exact alike
  | done shared => exact { alike with shared }

theorem Wait.Alike.act {left right : Wait} (alike : left.Alike right) (now : Instant)
    (action : BystanderAction) : (left.act now action).Alike (right.act now action) := by
  cases action with
  | failed => exact alike.notice (alike.shared.failed now)
  | succeeded => exact alike.notice alike.shared.succeeded
  | cancel => exact ⟨alike.shared, congrArg (min · now) alike.ending, rfl⟩

theorem Wait.Alike.attend {left right : Wait} (alike : left.Alike right) (now : Instant)
    (visits : List Visit) : (left.attend now visits).Alike (right.attend now visits) := by
  induction visits generalizing left right now with
  | nil => exact alike
  | cons visit rest inductionHypothesis =>
      simp only [Wait.attend, alike.ending]
      split
      next => exact inductionHypothesis (alike.act _ visit.action) _
      next => exact alike

structure ThrottleReport.Alike (left right : ThrottleReport) : Prop where
  shared : left.shared.Alike right.shared
  result : left.result = right.result
  ended : left.ended = right.ended
  cancelled : left.cancelled = right.cancelled
  consulted : left.consulted = right.consulted

theorem Backpressure.Alike.throttle {left right : Backpressure} (alike : left.Alike right)
    (cancelled : Bool) (now : Instant) (visits : List Visit) :
    (left.throttle cancelled now visits).Alike (right.throttle cancelled now visits) := by
  have replies := alike.delay now
  unfold Backpressure.throttle
  simp only [replies.delay, replies.consulted]
  cases (right.delay now).delay with
  | error crash => exact ⟨replies.shared, rfl, rfl, rfl, rfl⟩
  | ok delay =>
      cases delay with
      | none => exact ⟨replies.shared, rfl, rfl, rfl, rfl⟩
      | some delay =>
          dsimp only
          split
          next => exact ⟨replies.shared, rfl, rfl, rfl, rfl⟩
          next =>
            split
            next => exact ⟨replies.shared, rfl, rfl, rfl, rfl⟩
            next =>
              have waits : Wait.Alike ⟨(left.delay now).shared, now + delay.timer, false⟩
                  ⟨(right.delay now).shared, now + delay.timer, false⟩ :=
                ⟨replies.shared, rfl, rfl⟩
              have attended := waits.attend now visits
              exact ⟨attended.shared, by rw [attended.cancelled], attended.ending,
                attended.cancelled, rfl⟩

namespace BackpressureMoment

def after (moment : BackpressureMoment) (uses : List BackpressureUse) : BackpressureMoment :=
  uses.foldl (fun current use => (current.use use).after) moment

def outcomes (moment : BackpressureMoment) : List BackpressureUse → List BackpressureOutcome
  | [] => []
  | first :: rest => moment.use first :: (moment.use first).after.outcomes rest

structure Alike (left right : BackpressureMoment) : Prop where
  now : left.now = right.now
  shared : left.shared.Alike right.shared
  cancelled : left.cancelled = right.cancelled

end BackpressureMoment

namespace BackpressureOutcome

/-- What the caller learns, and what the policy does. -/
def told (outcome : BackpressureOutcome) : BackpressureReply × Option Consultation :=
  (outcome.reply, outcome.consulted)

structure Alike (left right : BackpressureOutcome) : Prop where
  told : left.told = right.told
  after : left.after.Alike right.after

end BackpressureOutcome

namespace BackpressureMoment

theorem Alike.record {left right : BackpressureMoment} (alike : left.Alike right)
    {leftResult rightResult : Except Crash Backpressure}
    (results : Backpressure.AlikeResults leftResult rightResult) :
    (left.record leftResult).Alike (right.record rightResult) := by
  cases results with
  | crashed crash => exact ⟨rfl, alike⟩
  | done shared => exact ⟨rfl, { alike with shared }⟩

theorem Alike.use {left right : BackpressureMoment} (alike : left.Alike right)
    (step : BackpressureUse) : (left.use step).Alike (right.use step) := by
  cases step with
  | failed times =>
      rw [BackpressureMoment.use, alike.now]
      exact alike.record (alike.shared.failedTimes right.now times)
  | succeeded => exact alike.record alike.shared.succeeded
  | failureCount =>
      refine ⟨?_, alike⟩
      simp only [BackpressureOutcome.told, BackpressureMoment.use, alike.shared.failureCount]
  | delay =>
      have replies := alike.shared.delay right.now
      simp only [BackpressureMoment.use, alike.now]
      refine ⟨?_, ⟨rfl, replies.shared, alike.cancelled⟩⟩
      simp only [BackpressureOutcome.told, replies.delay, replies.consulted]
  | throttle visits =>
      have reports := alike.shared.throttle right.cancelled right.now visits
      rw [BackpressureMoment.use, alike.now, alike.cancelled]
      refine ⟨?_, ⟨reports.ended, reports.shared, reports.cancelled⟩⟩
      simp only [BackpressureOutcome.told, BackpressureMoment.use, reports.result,
        reports.consulted]
  | cancel => exact ⟨rfl, { alike with cancelled := rfl }⟩
  | advance time => exact ⟨rfl, { alike with now := congrArg (· + time) alike.now }⟩

theorem Alike.told {left right : BackpressureMoment} (alike : left.Alike right)
    (uses : List BackpressureUse) :
    (left.outcomes uses).map BackpressureOutcome.told =
      (right.outcomes uses).map BackpressureOutcome.told := by
  induction uses generalizing left right with
  | nil => rfl
  | cons first rest inductionHypothesis =>
      simp only [outcomes, List.map_cons]
      rw [(alike.use first).told, inductionHypothesis (alike.use first).after]

end BackpressureMoment

end DecisionWorker
