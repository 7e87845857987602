import DecisionWorker.Backpressure.Use
import DecisionWorker.Proofs.Backpressure.Row

set_option autoImplicit false

/-!
What others can do to a caller who waits.

A wait is `Throttled` by the one answer that the policy gives when it begins. From then on only a
cancellation matters to the caller, and only one that comes no later than the end of the wait
(`Timeline.cancellation?`). What others report meanwhile changes the shared count as if nobody
were waiting.

Others may act at any moments, not only at those that a timer can hit: `Wait.meet` and
`throttleAmid` are `Wait.attend` and `throttle` for actions at given moments, and `throttle_eq`
says so.
-/

namespace DecisionWorker

abbrev Timeline := List (Instant × BystanderAction)

namespace Timeline

def InOrder (timeline : Timeline) : Prop :=
  timeline.Pairwise fun earlier later => earlier.1 ≤ later.1

def upTo (timeline : Timeline) (moment : Instant) : Timeline :=
  timeline.filter fun event => event.1 ≤ moment

/-- The moment of the first cancellation, if there is one that does not come too late. -/
def cancellation? (timeline : Timeline) (limit : Instant) : Option Instant :=
  (timeline.find? fun event => event.2 = .cancel ∧ event.1 ≤ limit).map Prod.fst

variable {timeline : Timeline} {moment limit : Instant}

theorem le_of_cancellation? {earliest : Instant} (late : ∀ event ∈ timeline, earliest ≤ event.1)
    (cancels : timeline.cancellation? limit = some moment) : earliest ≤ moment := by
  rw [cancellation?, Option.map_eq_some_iff] at cancels
  obtain ⟨event, found, rfl⟩ := cancels
  exact late event (List.mem_of_find?_eq_some found)

theorem cancellation?_le (cancels : timeline.cancellation? limit = some moment) :
    moment ≤ limit := by
  rw [cancellation?, Option.map_eq_some_iff] at cancels
  obtain ⟨event, found, rfl⟩ := cancels
  have chosen := List.find?_some found
  exact (of_decide_eq_true chosen).2

/-- Nothing that is done too late cancels anything. -/
theorem cancellation?_of_late (late : ∀ event ∈ timeline, limit < event.1) :
    timeline.cancellation? limit = none := by
  rw [cancellation?, Option.map_eq_none_iff, List.find?_eq_none]
  intro event membership cancels
  have inTime := (of_decide_eq_true cancels).2
  exact absurd inTime (Nat.not_le_of_lt (late event membership))

theorem upTo_of_late (late : ∀ event ∈ timeline, limit < event.1) : timeline.upTo limit = [] := by
  rw [upTo, List.filter_eq_nil_iff]
  intro event membership inTime
  exact absurd (of_decide_eq_true inTime) (Nat.not_le_of_lt (late event membership))

theorem cancellation?_cons_cancel (inTime : moment ≤ limit) :
    cancellation? ((moment, .cancel) :: timeline) limit = some moment := by
  simp [cancellation?, inTime]

theorem cancellation?_cons_of_ne {action : BystanderAction} (harmless : action ≠ .cancel) :
    cancellation? ((moment, action) :: timeline) limit = timeline.cancellation? limit := by
  simp [cancellation?, harmless]

theorem upTo_cons {action : BystanderAction} (inTime : moment ≤ limit) :
    upTo ((moment, action) :: timeline) limit = (moment, action) :: timeline.upTo limit := by
  simp [upTo, inTime]

end Timeline

/-- When visitors act of whom each one sets out when the one before has acted. -/
def Visit.timeline (now : Instant) : List Visit → Timeline
  | [] => []
  | visit :: rest =>
      let moment := now + visit.after.timer
      (moment, visit.action) :: timeline moment rest

theorem Visit.le_of_mem_timeline {visits : List Visit} {now : Instant}
    {event : Instant × BystanderAction} (membership : event ∈ timeline now visits) :
    now ≤ event.1 := by
  induction visits generalizing now with
  | nil => cases membership
  | cons visit rest inductionHypothesis =>
      have passes : now ≤ now + visit.after.timer := Nat.le_add_right _ _
      rcases List.mem_cons.mp membership with rfl | later
      · exact passes
      · exact Nat.le_trans passes (inductionHypothesis later)

theorem Visit.inOrder_timeline (now : Instant) (visits : List Visit) :
    (timeline now visits).InOrder := by
  induction visits generalizing now with
  | nil => exact List.Pairwise.nil
  | cons visit rest inductionHypothesis =>
      refine List.Pairwise.cons ?_ (inductionHypothesis _)
      intro event membership
      exact le_of_mem_timeline membership

namespace Wait

/-- Lets others act until the wait is over. -/
def meet (wait : Wait) : Timeline → Wait
  | [] => wait
  | event :: rest =>
      if event.1 ≤ wait.ending then (wait.act event.1 event.2).meet rest else wait

theorem attend_eq_meet (wait : Wait) (now : Instant) (visits : List Visit) :
    wait.attend now visits = wait.meet (Visit.timeline now visits) := by
  induction visits generalizing wait now with
  | nil => rfl
  | cons visit rest inductionHypothesis =>
      simp only [attend, meet, Visit.timeline]
      split
      next => exact inductionHypothesis _ _
      next => rfl

end Wait

namespace Backpressure

/-- Asks for the delay and waits for it, while others act at given moments. -/
def throttleAmid (shared : Backpressure) (cancelled : Bool) (now : Instant)
    (timeline : Timeline) : ThrottleReport :=
  let reply := shared.delay now
  match reply.delay with
  | .error crash => ⟨.crashed crash, now, reply.shared, cancelled, reply.consulted⟩
  | .ok none => ⟨.passed, now, reply.shared, cancelled, reply.consulted⟩
  | .ok (some delay) =>
      if cancelled then ⟨.cancelled, now, reply.shared, true, reply.consulted⟩
      else if delay.timer = .zero then ⟨.passed, now, reply.shared, false, reply.consulted⟩
      else
        let wait := Wait.meet ⟨reply.shared, now + delay.timer, false⟩ timeline
        { result := if wait.cancelled then .cancelled else .passed
          ended := wait.ending
          shared := wait.shared
          cancelled := wait.cancelled
          consulted := reply.consulted }

theorem throttle_eq (shared : Backpressure) (cancelled : Bool) (now : Instant)
    (visits : List Visit) :
    shared.throttle cancelled now visits =
      shared.throttleAmid cancelled now (Visit.timeline now visits) := by
  simp only [throttleAmid, ← Wait.attend_eq_meet]
  rfl

/-- Takes note of what somebody does. -/
def note (shared : Backpressure) (event : Instant × BystanderAction) : Except Crash Backpressure :=
  match event.2 with
  | .failed => shared.failed event.1
  | .succeeded => shared.succeeded
  | .cancel => .ok shared

end Backpressure

namespace Wait

variable {wait : Wait} {timeline : Timeline} {moment : Instant}

/-- A report changes the shared count and nothing else. -/
theorem act_of_ne_cancel (usable : wait.shared.poisoned = false) {action : BystanderAction}
    (harmless : action ≠ .cancel) :
    ∃ noted, wait.shared.note (moment, action) = .ok noted ∧ noted.poisoned = false ∧
      wait.act moment action = { wait with shared := noted } := by
  cases action with
  | failed =>
      have noted := Backpressure.failed_of_usable usable moment
      exact ⟨_, noted, usable, by simp only [act, noted]⟩
  | succeeded =>
      have noted := Backpressure.succeeded_of_usable usable
      exact ⟨_, noted, usable, by simp only [act, noted]⟩
  | cancel => exact absurd rfl harmless

theorem act_cancel (inTime : moment ≤ wait.ending) :
    wait.act moment .cancel = ⟨wait.shared, moment, true⟩ := by
  rw [act, Duration.min_eq_right inTime]

/-- What a wait comes to: it ends with a cancellation that is not too late, or else when it would
have ended anyway, and everything until then has been noted. -/
structure EndsAs (wait : Wait) (timeline : Timeline) (final : Wait) : Prop where
  ending : final.ending = (timeline.cancellation? wait.ending).getD wait.ending
  cancelled : final.cancelled = (wait.cancelled || (timeline.cancellation? wait.ending).isSome)
  shared : (timeline.upTo final.ending).foldlM Backpressure.note wait.shared = .ok final.shared

variable {rest : Timeline} {final : Wait}

theorem EndsAs.report {noted : Backpressure}
    (ends : EndsAs { wait with shared := noted } rest final)
    {action : BystanderAction} (harmless : action ≠ .cancel) (inTime : moment ≤ wait.ending)
    (note : wait.shared.note (moment, action) = .ok noted)
    (following : ∀ event ∈ rest, moment ≤ event.1) :
    EndsAs wait ((moment, action) :: rest) final where
  ending := by
    rw [Timeline.cancellation?_cons_of_ne harmless]
    exact ends.ending
  cancelled := by
    rw [Timeline.cancellation?_cons_of_ne harmless]
    exact ends.cancelled
  shared := by
    have before : moment ≤ final.ending := by
      rw [ends.ending]
      cases cancels : rest.cancellation? wait.ending with
      | none => exact inTime
      | some cancelled => exact Timeline.le_of_cancellation? following cancels
    rw [Timeline.upTo_cons before, List.foldlM_cons, note]
    exact ends.shared

theorem EndsAs.cancel (ends : EndsAs ⟨wait.shared, moment, true⟩ rest final)
    (inTime : moment ≤ wait.ending) (following : ∀ event ∈ rest, moment ≤ event.1) :
    EndsAs wait ((moment, .cancel) :: rest) final := by
  have ended : final.ending = moment := by
    rw [ends.ending]
    cases cancels : rest.cancellation? moment with
    | none => rfl
    | some again =>
        exact Duration.le_antisymm (Timeline.cancellation?_le cancels)
          (Timeline.le_of_cancellation? following cancels)
  refine ⟨?_, ?_, ?_⟩
  · rw [ended, Timeline.cancellation?_cons_cancel inTime]
    rfl
  · rw [ends.cancelled, Timeline.cancellation?_cons_cancel inTime, Option.isSome_some,
      Bool.or_true, Bool.true_or]
  · have folded := ends.shared
    rw [ended] at folded ⊢
    rw [Timeline.upTo_cons (Nat.le_refl _), List.foldlM_cons]
    exact folded

theorem endsAs_of_late (late : ∀ event ∈ timeline, wait.ending < event.1) :
    EndsAs wait timeline wait where
  ending := by
    rw [Timeline.cancellation?_of_late late]
    rfl
  cancelled := by
    rw [Timeline.cancellation?_of_late late, Option.isSome_none, Bool.or_false]
  shared := by
    rw [Timeline.upTo_of_late late]
    rfl

theorem endsAs_meet (usable : wait.shared.poisoned = false) (inOrder : timeline.InOrder) :
    EndsAs wait timeline (wait.meet timeline) := by
  induction timeline generalizing wait with
  | nil => exact endsAs_of_late nofun
  | cons event rest inductionHypothesis =>
      obtain ⟨moment, action⟩ := event
      obtain ⟨following, restInOrder⟩ := List.pairwise_cons.mp inOrder
      by_cases inTime : moment ≤ wait.ending
      · simp only [meet, if_pos inTime]
        by_cases cancels : action = .cancel
        · subst cancels
          rw [act_cancel inTime]
          apply EndsAs.cancel _ inTime following
          exact inductionHypothesis usable restInOrder
        · obtain ⟨noted, note, stillUsable, acted⟩ := act_of_ne_cancel usable cancels
          rw [acted]
          apply EndsAs.report _ cancels inTime note following
          exact inductionHypothesis stillUsable restInOrder
      · simp only [meet, if_neg inTime]
        apply endsAs_of_late
        intro event membership
        have late : wait.ending < moment := Nat.lt_of_not_le inTime
        rcases List.mem_cons.mp membership with rfl | later
        · exact late
        · exact Nat.lt_of_lt_of_le late (following event later)

end Wait

namespace Backpressure

def counted (shared : Backpressure) : Backpressure :=
  { shared with consultations := shared.consultations + 1 }

def question (shared : Backpressure) (now : Instant) (answer : NextDelay) : Consultation :=
  ⟨shared.streak.attempt, shared.streak.elapsed now, answer⟩

structure Answered (shared : Backpressure) (now : Instant) (answer : NextDelay) : Prop where
  failing : shared.streak.failures ≠ 0
  answer : shared.policy.consult shared.consultations shared.streak.attempt
    (shared.streak.elapsed now) = .ok answer

/-- How it goes for a caller who asks for the delay at a moment and waits for it. -/
inductive Throttled (shared : Backpressure) (cancelled : Bool) (now : Instant)
    (timeline : Timeline) : ThrottleReport → Prop
  /-- Without failures there is no wait, and no question to the policy. -/
  | unasked : shared.streak.failures = 0 →
      Throttled shared cancelled now timeline ⟨.passed, now, shared, cancelled, none⟩
  /-- If the policy stops there is no wait, not even for those who are cancelled. -/
  | stopped : shared.Answered now .stop →
      Throttled shared cancelled now timeline
        ⟨.passed, now, shared.counted, cancelled, some (shared.question now .stop)⟩
  /-- Those who are cancelled already do not wait, however short the wait. -/
  | cancelledBefore {delay : Duration} : shared.Answered now (.wait delay) → cancelled = true →
      Throttled shared cancelled now timeline
        ⟨.cancelled, now, shared.counted, true, some (shared.question now (.wait delay))⟩
  /-- A wait of no length is over before anybody acts. -/
  | instantly : shared.Answered now (.wait .zero) → cancelled = false →
      Throttled shared cancelled now timeline
        ⟨.passed, now, shared.counted, false, some (shared.question now (.wait .zero))⟩
  /-- The wait lasts as long as a timer that is set to its length. -/
  | waited {delay : Duration} {after : Backpressure} : shared.Answered now (.wait delay) →
      cancelled = false → delay ≠ .zero →
      timeline.cancellation? (now + delay.timer) = none →
      (timeline.upTo (now + delay.timer)).foldlM note shared.counted = .ok after →
      Throttled shared cancelled now timeline
        ⟨.passed, now + delay.timer, after, false, some (shared.question now (.wait delay))⟩
  /-- The first cancellation ends it if that comes no later. -/
  | cancelledMeanwhile {delay : Duration} {after : Backpressure} {moment : Instant} :
      shared.Answered now (.wait delay) → cancelled = false → delay ≠ .zero →
      timeline.cancellation? (now + delay.timer) = some moment →
      (timeline.upTo moment).foldlM note shared.counted = .ok after →
      Throttled shared cancelled now timeline
        ⟨.cancelled, moment, after, true, some (shared.question now (.wait delay))⟩

variable {shared : Backpressure} {cancelled : Bool} {now : Instant} {timeline : Timeline}

theorem Answered.delay {answer : NextDelay} (usable : shared.poisoned = false)
    (answered : shared.Answered now answer) :
    shared.delay now = ⟨shared.counted, some (shared.question now answer), .ok answer.delay?⟩ :=
  delay_of_answer usable answered.failing answered.answer

theorem Answered.throttled {delay : Duration} (usable : shared.poisoned = false)
    (answered : shared.Answered now (.wait delay)) (long : delay ≠ .zero)
    (inOrder : timeline.InOrder) :
    Throttled shared false now timeline (shared.throttleAmid false now timeline) := by
  have ends := Wait.endsAs_meet
    (show (Wait.mk shared.counted (now + delay.timer) false).shared.poisoned = false from usable)
    inOrder
  simp only [throttleAmid, answered.delay usable, NextDelay.delay?, Bool.false_eq_true, if_false,
    Duration.timer_eq_zero_iff, long]
  generalize Wait.meet _ timeline = final at ends ⊢
  obtain ⟨ended, wasCancelled, folded⟩ := ends
  obtain ⟨after, ending, cancelled⟩ := final
  simp only at ended wasCancelled folded ⊢
  subst ended wasCancelled
  cases cancels : timeline.cancellation? (now + delay.timer) with
  | none =>
      rw [cancels] at folded
      exact .waited answered rfl long cancels folded
  | some moment =>
      rw [cancels] at folded
      exact .cancelledMeanwhile answered rfl long cancels folded

theorem throttled_throttleAmid (usable : shared.poisoned = false) (steady : shared.policy.Steady)
    (cancelled : Bool) (now : Instant) (inOrder : timeline.InOrder) :
    Throttled shared cancelled now timeline (shared.throttleAmid cancelled now timeline) := by
  by_cases quiet : shared.streak.failures = 0
  · simp only [throttleAmid, delay_of_failures_eq_zero usable quiet]
    exact .unasked quiet
  · cases consulted : shared.policy.consult shared.consultations shared.streak.attempt
        (shared.streak.elapsed now) with
    | error crash => exact absurd consulted (steady _ _ _ _)
    | ok answer =>
        have answered : shared.Answered now answer := ⟨quiet, consulted⟩
        cases answer with
        | stop =>
            simp only [throttleAmid, answered.delay usable, NextDelay.delay?]
            exact .stopped answered
        | wait delay =>
            cases cancelled with
            | true =>
                simp only [throttleAmid, answered.delay usable, NextDelay.delay?, if_true]
                exact .cancelledBefore answered rfl
            | false =>
                by_cases none : delay = .zero
                · subst none
                  simp only [throttleAmid, answered.delay usable, NextDelay.delay?,
                    Bool.false_eq_true, if_false, Duration.timer_eq_zero_iff, if_true]
                  exact .instantly answered rfl
                · exact answered.throttled usable none inOrder

/-- A caller who waits depends on others only in so far as they cancel the wait: its length is
what the policy says when it begins, whatever is reported meanwhile, and every report counts. -/
theorem only_cancelling_shortens_a_wait (usable : shared.poisoned = false)
    (steady : shared.policy.Steady) (cancelled : Bool) (now : Instant) :
    (∀ timeline : Timeline, timeline.InOrder →
      Throttled shared cancelled now timeline (shared.throttleAmid cancelled now timeline)) ∧
    ∀ visits : List Visit,
      Throttled shared cancelled now (Visit.timeline now visits)
        (shared.throttle cancelled now visits) := by
  refine ⟨?_, ?_⟩
  · intro timeline inOrder
    exact throttled_throttleAmid usable steady cancelled now inOrder
  · intro visits
    rw [throttle_eq]
    exact throttled_throttleAmid usable steady cancelled now (Visit.inOrder_timeline now visits)

def failedUnder (delay : Duration) : Backpressure :=
  ⟨⟨fun _ _ _ => .ok (.wait delay)⟩, ⟨1, some .zero⟩, 0, false⟩

/-- In the instant in which the wait would end anyway there is a success, then a failure, and then
the cancellation. -/
theorem only_cancelling_shortens_a_wait_at_the_last_instant :
    let shared := failedUnder ⟨4500000⟩
    let last := Duration.ofMilliseconds 6
    let timeline := [(.ofMilliseconds 3, .failed), (last, .succeeded), (last, .failed),
      (last, .cancel), (.ofMilliseconds 7, .succeeded)]
    let report := shared.throttleAmid false (.ofMilliseconds 1) timeline
    shared.poisoned = false ∧ shared.policy.Steady ∧ Timeline.InOrder timeline ∧
      Throttled shared false (.ofMilliseconds 1) timeline report ∧ report.result = .cancelled ∧
      report.ended = last ∧ report.shared.streak = ⟨1, some last⟩ := by
  intro shared last timeline report
  have usable : shared.poisoned = false := rfl
  have steady : shared.policy.Steady := nofun
  have inOrder : Timeline.InOrder timeline := by
    unfold Timeline.InOrder
    decide
  have throttled :=
    (only_cancelling_shortens_a_wait usable steady false (.ofMilliseconds 1)).1 timeline inOrder
  exact ⟨usable, steady, inOrder, throttled, by decide, by decide, by decide⟩

/-- No wait is longer than the longest timer, and nobody gets to cancel a wait of no length. -/
theorem throttle_passes_at_bounds :
    let delay : Duration := ⟨946080000000000001⟩
    let long := (failedUnder delay).throttle false .zero []
    let short := (failedUnder .zero).throttle false .zero [⟨.zero, .cancel⟩]
    long.consulted = some ⟨1, .zero, .wait delay⟩ ∧ long.result = .passed ∧
      long.ended < Duration.zero + delay.roundUp ∧
      short.consulted = some ⟨1, .zero, .wait .zero⟩ ∧ short.result = .passed := by
  refine ⟨rfl, rfl, ?_, rfl, rfl⟩
  decide

end Backpressure

end DecisionWorker
