import DecisionWorker.Proofs.Backpressure.Alike
import DecisionWorker.Proofs.Backpressure.Row

set_option autoImplicit false

/-!
Shared backpressure is what its callers can count themselves.

`Tally` keeps count of the uses alone: the time that has passed, and the moments of the failures
since the last success. As long as the policy has not crashed, backpressure agrees with the tally
after every use (`Tallies`), whoever made it: the streak is that of the failures in the tally.
-/

namespace DecisionWorker

namespace BackpressureUse

/-- Over at once: everything but a wait. -/
def immediate : BackpressureUse → Bool
  | throttle _ => false
  | _ => true

/-- A question that is not supposed to change anything. -/
def asks : BackpressureUse → Bool
  | failureCount => true
  | delay => true
  | _ => false

end BackpressureUse

/-- What those who share backpressure know of it without asking: the time, the moments of the
failures since the last success, how often the policy had to be consulted, and whether the token
is cancelled. -/
structure Tally where
  now : Instant
  row : List Instant
  consultations : Nat
  cancelled : Bool

namespace Tally

def start : Tally := ⟨.zero, [], 0, false⟩

/-- The tally after an immediate use. Nobody consults a policy about no failures. -/
def next (tally : Tally) : BackpressureUse → Tally
  | .failed times => { tally with row := tally.row ++ List.replicate times tally.now }
  | .succeeded => { tally with row := [] }
  | .delay =>
      match tally.row with
      | [] => tally
      | _ :: _ => { tally with consultations := tally.consultations + 1 }
  | .cancel => { tally with cancelled := true }
  | .advance time => { tally with now := tally.now + time }
  | .failureCount | .throttle _ => tally

def ofUses (uses : List BackpressureUse) : Tally := uses.foldl next start

end Tally

def BackpressureReply.isCrash : BackpressureReply → Bool
  | crashed _ => true
  | _ => false

namespace BackpressureMoment

structure Tallies (policy : RetryPolicy) (moment : BackpressureMoment) (tally : Tally) : Prop where
  policy : moment.shared.policy = policy
  usable : moment.shared.poisoned = false
  streak : moment.shared.streak = .ofRow tally.row
  now : moment.now = tally.now
  consultations : moment.shared.consultations = tally.consultations
  cancelled : moment.cancelled = tally.cancelled

theorem tallies_start (policy : RetryPolicy) : Tallies policy (start policy) .start :=
  ⟨rfl, rfl, rfl, rfl, rfl, rfl⟩

variable {policy : RetryPolicy} {moment : BackpressureMoment} {tally : Tally}

theorem Tallies.delay_of_empty (tallies : Tallies policy moment tally) (empty : tally.row = []) :
    moment.use .delay = ⟨moment, .delay none, none⟩ := by
  have streak : moment.shared.streak = .ofRow [] := by rw [tallies.streak, empty]
  rw [use, Backpressure.delay_of_empty tallies.usable streak]
  rfl

theorem Tallies.delay_of_row (tallies : Tallies policy moment tally) {first : Instant}
    {rest : List Instant} (row : tally.row = first :: rest) :
    let attempt := min tally.row.length greatestAttempt
    let elapsed := tally.now - first
    let counted := { moment.shared with consultations := moment.shared.consultations + 1 }
    moment.use .delay =
      match policy.consult tally.consultations attempt elapsed with
      | .ok answer =>
          ⟨{ moment with shared := counted }, .delay answer.delay?,
            some ⟨attempt, elapsed, answer⟩⟩
      | .error crash =>
          ⟨{ moment with shared := { counted with poisoned := true } }, .crashed crash, none⟩ := by
  intro attempt elapsed counted
  have streak : moment.shared.streak = .ofRow (first :: rest) := by rw [tallies.streak, row]
  have number : min (rest.length + 1) greatestAttempt = attempt := by
    simp only [attempt, row, List.length_cons]
  have since : moment.now - first = elapsed := by rw [tallies.now]
  have asked : moment.shared.policy.consult moment.shared.consultations attempt elapsed =
      policy.consult tally.consultations attempt elapsed := by
    rw [tallies.policy, tallies.consultations]
  rw [use, Backpressure.delay_of_row tallies.usable streak, number, since, asked]
  cases policy.consult tally.consultations attempt elapsed with
  | ok answer => rfl
  | error crash => rfl

theorem Tallies.next (tallies : Tallies policy moment tally) {step : BackpressureUse}
    (immediate : step.immediate = true) (calm : (moment.use step).reply.isCrash = false) :
    Tallies policy (moment.use step).after (tally.next step) := by
  cases step with
  | failed times =>
      have failed := Backpressure.failedTimes_of_usable tallies.usable moment.now times
      simp only [use, failed, record]
      refine { tallies with streak := ?_ }
      rw [tallies.streak, Streak.failed_iterate_ofRow, Tally.next, ← tallies.now]
  | succeeded =>
      simp only [use, Backpressure.succeeded_of_usable tallies.usable, record]
      exact { tallies with streak := rfl }
  | failureCount => exact tallies
  | delay =>
      cases row : tally.row with
      | nil =>
          rw [tallies.delay_of_empty row, Tally.next, row]
          exact tallies
      | cons first rest =>
          have counted : tally.next .delay =
              { tally with consultations := tally.consultations + 1 } := by
            simp only [Tally.next, row]
          rw [counted]
          rw [tallies.delay_of_row row] at calm ⊢
          cases answers : policy.consult tally.consultations
              (min tally.row.length greatestAttempt) (tally.now - first) with
          | ok answer =>
              exact { tallies with consultations := congrArg Nat.succ tallies.consultations }
          | error crash =>
              rw [answers] at calm
              cases calm
  | throttle visits => cases immediate
  | cancel => exact { tallies with cancelled := rfl }
  | advance time =>
      refine { tallies with now := ?_ }
      rw [use, Tally.next, tallies.now]

theorem Tallies.after (tallies : Tallies policy moment tally) {uses : List BackpressureUse}
    (immediate : ∀ use ∈ uses, use.immediate = true)
    (calm : ∀ outcome ∈ moment.outcomes uses, outcome.reply.isCrash = false) :
    Tallies policy (moment.after uses) (uses.foldl Tally.next tally) := by
  induction uses generalizing moment tally with
  | nil => exact tallies
  | cons first rest inductionHypothesis =>
      rw [outcomes, List.forall_mem_cons] at calm
      rw [List.forall_mem_cons] at immediate
      exact inductionHypothesis (tallies.next immediate.1 calm.1) immediate.2 calm.2

end BackpressureMoment

end DecisionWorker
