import DecisionWorker.Eviction.Dispatcher
import Mathlib.Data.List.Induction
import Mathlib.Data.List.Infix

set_option autoImplicit false

/-!
The courses that notices take one after the other.

A notice has its turn as soon as it is queued and the one before it is finished, so the times
follow from one another all the way back to the first notice (`InTurn`). As no call takes longer
than the timeout, nobody waits for more than one timeout for each notice ahead
(`InTurn.free_le`), whatever becomes of the calls.
-/

namespace DecisionWorker

def Duration.times (count : Nat) (duration : Duration) : Duration := ⟨count * duration.nanoseconds⟩

namespace ResetService

/-- How long a call keeps the dispatcher waiting. -/
def span (service : ResetService) (number : Nat) : Duration :=
  match (service.behaviour number).latency with
  | none => service.timeout
  | some latency => min latency service.timeout

/-- A call that takes no longer than the timeout comes to its own end, and others are given up. -/
def outcome (service : ResetService) (number : Nat) : CallEnding :=
  match (service.behaviour number).latency with
  | none => .timedOut
  | some latency =>
      if latency ≤ service.timeout then .answered (service.behaviour number).answer else .timedOut

structure InMilliseconds (service : ResetService) : Prop where
  timeout : service.timeout.Whole
  latency : ∀ {number latency},
    (service.behaviour number).latency = some latency → latency.Whole

variable {service : ResetService}

theorem span_le (service : ResetService) (number : Nat) :
    service.span number ≤ service.timeout := by
  unfold span
  cases (service.behaviour number).latency with
  | none => exact Nat.le_refl _
  | some latency => exact Nat.min_le_right _ _

theorem call_eq (whole : service.InMilliseconds) (number : Nat) :
    service.call number = (service.span number, service.outcome number) := by
  simp only [call, span, outcome, Duration.roundUp_of_whole whole.timeout]
  cases known : (service.behaviour number).latency with
  | none => rfl
  | some latency =>
      simp only [Duration.roundUp_of_whole (whole.latency known)]
      by_cases inTime : latency ≤ service.timeout
      · simp only [if_pos inTime, Duration.min_eq_left inTime]
      · simp only [if_neg inTime, Duration.min_eq_right (Nat.le_of_not_le inTime)]

end ResetService

/-- What becomes of a notice: when it is queued, when it has its turn, and which call it leads
to unless it is stale by then. -/
structure Course where
  eviction : Eviction
  queued : Instant
  taken : Instant
  call? : Option Nat
  deriving DecidableEq

namespace Course

def queuing (course : Course) : Instant × Eviction := (course.queued, course.eviction)

/-- A stale notice is finished at once, others when their call is over. -/
def finished (course : Course) (service : ResetService) : Instant :=
  match course.call? with
  | none => course.taken
  | some number => course.taken + service.span number

def steps (course : Course) (service : ResetService) : List (Instant × DispatchStep) :=
  match course.call? with
  | none => [(course.taken, .skipped course.eviction)]
  | some number =>
      [(course.taken, .checked course.eviction), (course.taken, .called course.eviction),
        (course.finished service, .ended course.eviction (service.outcome number))]

theorem taken_le_finished (course : Course) (service : ResetService) :
    course.taken ≤ course.finished service := by
  unfold finished
  cases course.call? with
  | none => exact Nat.le_refl _
  | some number => exact Nat.le_add_right _ _

theorem finished_le (course : Course) (service : ResetService) :
    course.finished service ≤ course.taken + service.timeout := by
  unfold finished
  cases course.call? with
  | none => exact Nat.le_add_right _ _
  | some number => exact Nat.add_le_add_left (service.span_le number) _

end Course

def free (service : ResetService) (courses : List Course) : Instant :=
  match courses.getLast? with
  | none => .zero
  | some course => course.finished service

/-- Every notice has its turn when it is queued and the one before it is finished, and the calls
are made one after the other. -/
def InTurn (service : ResetService) (courses : List Course) : Prop :=
  ∀ earlier course, earlier ++ [course] <+: courses →
    course.taken = max course.queued (free service earlier) ∧
    ∀ number, course.call? = some number → number = (earlier.filterMap Course.call?).length

/-- The courses that are not finished by a moment. -/
def unfinished (service : ResetService) (courses : List Course) (moment : Instant) :
    List Course :=
  courses.filter fun course => moment < course.finished service

/-- By when a notice has its turn: after a timeout for each that is ahead when it is queued. -/
def deadline (service : ResetService) (queued : Instant) (ahead : Nat) : Instant :=
  queued + .times ahead service.timeout

theorem deadline_mono (service : ResetService) (queued : Instant) {ahead more : Nat}
    (fewer : ahead ≤ more) : deadline service queued ahead ≤ deadline service queued more :=
  Nat.add_le_add_left (Nat.mul_le_mul_right _ fewer) _

section Courses

variable {service : ResetService} {courses : List Course} {course : Course} {moment : Instant}

@[simp]
theorem free_concat (service : ResetService) (courses : List Course) (course : Course) :
    free service (courses ++ [course]) = course.finished service := by
  simp [free]

theorem inTurn_nil (service : ResetService) : InTurn service [] := by
  intro earlier course isPrefix
  have none := List.prefix_nil.mp isPrefix
  exact absurd none (List.concat_ne_nil course earlier)

theorem InTurn.concat (inTurn : InTurn service courses)
    (taken : course.taken = max course.queued (free service courses))
    (numbered : ∀ number, course.call? = some number →
      number = (courses.filterMap Course.call?).length) :
    InTurn service (courses ++ [course]) := by
  intro earlier other isPrefix
  rcases List.prefix_concat_iff.mp isPrefix with same | before
  · obtain ⟨rfl, single⟩ := List.append_inj' same rfl
    obtain rfl := List.head_eq_of_cons_eq single
    exact ⟨taken, numbered⟩
  · exact inTurn earlier other before

theorem InTurn.of_prefix (inTurn : InTurn service courses) {earlier : List Course}
    (isPrefix : earlier <+: courses) : InTurn service earlier :=
  fun others other isInit => inTurn others other (isInit.trans isPrefix)

theorem InTurn.init (inTurn : InTurn service (courses ++ [course])) : InTurn service courses :=
  inTurn.of_prefix (List.prefix_append courses [course])

theorem InTurn.taken_eq (inTurn : InTurn service (courses ++ [course])) :
    course.taken = max course.queued (free service courses) :=
  (inTurn courses course (List.prefix_refl _)).1

theorem InTurn.free_le_taken (inTurn : InTurn service (courses ++ [course])) :
    free service courses ≤ course.taken := by
  rw [inTurn.taken_eq]
  exact Nat.le_max_right _ _

theorem InTurn.finished_le_free (inTurn : InTurn service courses) (member : course ∈ courses) :
    course.finished service ≤ free service courses := by
  induction courses using List.reverseRecOn with
  | nil => cases member
  | append_singleton courses last inductionHypothesis =>
      rw [free_concat]
      rcases List.mem_append.mp member with before | same
      · exact Nat.le_trans (inductionHypothesis inTurn.init before)
          (Nat.le_trans inTurn.free_le_taken (last.taken_le_finished service))
      · rw [List.mem_singleton.mp same]
        exact Nat.le_refl _

theorem InTurn.unfinished_eq_nil (inTurn : InTurn service courses)
    (ended : free service courses ≤ moment) : unfinished service courses moment = [] := by
  rw [unfinished, List.filter_eq_nil_iff]
  intro course member late
  have finished := Nat.le_trans (inTurn.finished_le_free member) ended
  exact absurd finished (Nat.not_le_of_lt (of_decide_eq_true late))

theorem InTurn.length_unfinished_le (inTurn : InTurn service courses)
    (taken : ∀ course ∈ courses, course.taken ≤ moment) :
    (unfinished service courses moment).length ≤ 1 := by
  cases courses using List.reverseRecOn with
  | nil => exact Nat.zero_le _
  | append_singleton courses last _ =>
      have ended : free service courses ≤ moment :=
        Nat.le_trans inTurn.free_le_taken (taken last List.mem_concat_self)
      rw [unfinished, List.filter_append, ← unfinished, inTurn.init.unfinished_eq_nil ended,
        List.nil_append]
      exact List.length_filter_le _ [last]

/-- The dispatcher is free for a notice after at most one timeout for each that is ahead. -/
theorem InTurn.free_le (inTurn : InTurn service courses)
    (ahead : ∀ course ∈ courses, course.queued ≤ moment) :
    free service courses ≤ deadline service moment (unfinished service courses moment).length := by
  induction courses using List.reverseRecOn with
  | nil => exact Nat.zero_le _
  | append_singleton courses last inductionHypothesis =>
      rw [free_concat]
      by_cases ended : last.finished service ≤ moment
      · exact Nat.le_trans ended (Nat.le_add_right _ _)
      · have bound := inductionHypothesis inTurn.init fun course member =>
          ahead course (List.mem_append_left _ member)
        have queued : last.queued ≤ moment := ahead last List.mem_concat_self
        have finished := last.finished_le service
        have late : moment < last.finished service := Nat.lt_of_not_le ended
        have counted : unfinished service (courses ++ [last]) moment =
            unfinished service courses moment ++ [last] := by
          simp [unfinished, late]
        rw [inTurn.taken_eq] at finished
        rw [counted, List.length_append, List.length_singleton]
        simp only [Duration.le_iff, Duration.nanoseconds_add, Duration.nanoseconds_max, deadline,
          Duration.times, Nat.add_mul, Nat.one_mul] at *
        omega

/-- If notices are queued one after the other, each has its turn by its deadline. -/
theorem InTurn.taken_le (inTurn : InTurn service courses)
    (ordered : courses.Pairwise fun earlier later => earlier.queued ≤ later.queued)
    {earlier : List Course} (isPrefix : earlier ++ [course] <+: courses) :
    course.taken ≤
      deadline service course.queued (unfinished service earlier course.queued).length := by
  have split := List.pairwise_append.mp (ordered.sublist isPrefix.sublist)
  have ahead : ∀ other ∈ earlier, other.queued ≤ course.queued :=
    fun other member => split.2.2 other member course List.mem_cons_self
  have before := inTurn.of_prefix ((List.prefix_append earlier [course]).trans isPrefix)
  rw [(inTurn earlier course isPrefix).1]
  exact Nat.max_le.mpr ⟨Nat.le_add_right _ _, before.free_le ahead⟩

end Courses

end DecisionWorker
