import DecisionWorker.Proofs.Eviction.Courses
import DecisionWorker.Proofs.Sticky.Pipeline
import DecisionWorker.Proofs.Sticky.Promptness

set_option autoImplicit false

/-!
When the dispatcher gets round to a notice.

If nobody keeps the dispatcher from working, the moments in a trace are fixed by the moments at
which notices are queued: each notice takes its course, in turn, and what the dispatcher does is
what the courses say (`OnSchedule`). A notice that still waits is not late, so it never waits
beyond a deadline that grows with the number of notices ahead of it.
-/

namespace DecisionWorker

variable {State : Type}

namespace Dispatcher

/-- What is left to do about the notice in flight if nobody keeps the dispatcher from working. -/
def outstanding (service : ResetService) (now : Instant) (dispatcher : Dispatcher) :
    List (Instant × DispatchStep) :=
  match dispatcher.phase with
  | .checked eviction =>
      let call := service.call dispatcher.calls
      [(now, .called eviction), (now + call.1, .ended eviction call.2)]
  | .calling eviction ends ending => [(ends, .ended eviction ending)]
  | _ => []

def doneAt? (service : ResetService) (now : Instant) (dispatcher : Dispatcher) : Option Instant :=
  match dispatcher.phase with
  | .checked _ => some (now + (service.call dispatcher.calls).1)
  | .calling _ ends _ => some ends
  | _ => none

/-- The number of calls, with the one that is about to begin. -/
def committed (dispatcher : Dispatcher) : Nat := dispatcher.calls + dispatcher.checked.length

theorem length_inFlight_of_doneAt {service : ResetService} {now ends : Instant}
    {dispatcher : Dispatcher} (busy : dispatcher.doneAt? service now = some ends) :
    dispatcher.inFlight.length = 1 := by
  obtain ⟨phase, queue, calls⟩ := dispatcher
  cases phase with
  | checked | calling => rfl
  | waiting | stopped | crashed => cases busy

/-- A dispatcher that waits has begun the call of the notice in flight, so it does not matter when
it is looked at. -/
theorem outstanding_of_waits {service : ResetService} {view : CacheView} {now : Instant}
    {dispatcher : Dispatcher} (waits : dispatcher.step service view now = none)
    (moment : Instant) :
    dispatcher.outstanding service moment = dispatcher.outstanding service now ∧
      dispatcher.doneAt? service moment = dispatcher.timer? := by
  obtain ⟨phase, queue, calls⟩ := dispatcher
  cases phase with
  | checked => cases waits
  | waiting | calling | stopped | crashed => exact ⟨rfl, rfl⟩

end Dispatcher

def StickyEvent.work? : StickyEvent State → Option DispatchStep
  | .dispatched .stopped => none
  | .dispatched step => some step
  | .effect _ => none

def queuingsIn (trace : StickyTrace State) : List (Instant × Eviction) :=
  trace.filterMap fun event => event.2.queued?.map fun eviction => (event.1, eviction)

def workIn (trace : StickyTrace State) : List (Instant × DispatchStep) :=
  trace.filterMap fun event => event.2.work?.map fun step => (event.1, step)

@[simp]
theorem queuingsIn_append (earlier later : StickyTrace State) :
    queuingsIn (earlier ++ later) = queuingsIn earlier ++ queuingsIn later :=
  List.filterMap_append

@[simp]
theorem workIn_append (earlier later : StickyTrace State) :
    workIn (earlier ++ later) = workIn earlier ++ workIn later :=
  List.filterMap_append

@[simp]
theorem queuingsIn_dispatched (now : Instant) (step : DispatchStep) :
    queuingsIn [((now, .dispatched step) : Instant × StickyEvent State)] = [] := rfl

@[simp]
theorem queuingsIn_effects (now : Instant) (effects : List (CacheEffect State)) :
    queuingsIn (effects.map fun effect => (now, .effect effect)) =
      (effects.filterMap CacheEffect.queued?).map fun eviction => (now, eviction) := by
  simp only [queuingsIn, List.filterMap_map, List.map_filterMap]
  rfl

@[simp]
theorem workIn_effects (now : Instant) (effects : List (CacheEffect State)) :
    workIn (effects.map fun effect => (now, .effect effect)) = [] := by
  simp [workIn, StickyEvent.work?]

namespace StickyMoment

/-- The notices of a run take their courses, and those that have not had their turn wait for it,
with the moments at which they were queued. -/
structure OnSchedule (service : ResetService) (moment : StickyMoment State)
    (trace : StickyTrace State) (courses : List Course) (waiting : List (Instant × Eviction)) :
    Prop where
  queued : queuingsIn trace = courses.map Course.queuing ++ waiting
  queue : waiting.map Prod.snd = moment.sticky.dispatcher.queue
  /-- All that the dispatcher does belongs to a course, but the last one may still go on. -/
  work : workIn trace ++ moment.sticky.dispatcher.outstanding service moment.now =
    courses.flatMap fun course => course.steps service
  inTurn : InTurn service courses
  /-- The next notice is not late. -/
  punctual : ∀ notice ∈ waiting.head?, moment.now ≤ max notice.1 (free service courses)

structure Scheduled (service : ResetService) (moment : StickyMoment State)
    (trace : StickyTrace State) (courses : List Course) (waiting : List (Instant × Eviction)) :
    Prop extends OnSchedule service moment trace courses waiting where
  healthy : moment.sticky.Healthy
  numbered : moment.sticky.dispatcher.committed = (courses.filterMap Course.call?).length
  past : ∀ queuing ∈ queuingsIn trace, queuing.1 ≤ moment.now
  ordered : (queuingsIn trace).Pairwise fun earlier later => earlier.1 ≤ later.1
  taken : ∀ course ∈ courses, course.taken ≤ moment.now
  busy : ∀ ends, moment.sticky.dispatcher.doneAt? service moment.now = some ends →
    free service courses = ends ∧ moment.now ≤ ends
  idle : moment.sticky.dispatcher.doneAt? service moment.now = none →
    free service courses ≤ moment.now
  stopped : moment.sticky.dispatcher.phase = .stopped → moment.sticky.dispatcher.queue = []

variable {service : ResetService} {trace : StickyTrace State} {courses : List Course}
  {waiting : List (Instant × Eviction)}

theorem scheduled_start (service : ResetService) {sticky : StickyCache State}
    (healthy : sticky.Healthy) (fresh : sticky.dispatcher = .start) :
    Scheduled service (start sticky) [] [] [] where
  queued := rfl
  queue := by simp [start, fresh, Dispatcher.start]
  work := by simp [start, fresh, Dispatcher.start, Dispatcher.outstanding, workIn]
  inTurn := inTurn_nil service
  punctual := nofun
  healthy := healthy
  numbered := by simp [start, fresh, Dispatcher.start, Dispatcher.committed, Dispatcher.checked]
  past := nofun
  ordered := List.Pairwise.nil
  taken := nofun
  busy := by simp [start, fresh, Dispatcher.start, Dispatcher.doneAt?]
  idle _ := Nat.le_refl _
  stopped := by simp [start, fresh, Dispatcher.start]

/-- The notice at the head of the queue has its turn now, and that is on time. -/
theorem Scheduled.turn {now : Instant} {standing : Standing State} {eviction : Eviction}
    {rest : List Eviction} {calls : Nat}
    (scheduled : Scheduled service ⟨now, standing, .waiting, eviction :: rest, calls⟩ trace
      courses waiting) :
    ∃ queued later, waiting = (queued, eviction) :: later ∧ later.map Prod.snd = rest ∧
      now = max queued (free service courses) := by
  obtain ⟨⟨queued, other⟩, later, split, same, remaining⟩ :=
    List.map_eq_cons_iff.mp scheduled.queue
  simp only at same
  subst same
  have listed : (queued, other) ∈ queuingsIn trace := by
    rw [scheduled.queued, split]
    exact List.mem_append_right _ List.mem_cons_self
  refine ⟨queued, later, split, remaining, Duration.le_antisymm ?_ ?_⟩
  · apply scheduled.punctual (queued, other)
    rw [split]
    exact rfl
  · exact Nat.max_le.mpr ⟨scheduled.past _ listed, scheduled.idle rfl⟩

section Dispatch

variable {now : Instant} {standing : Standing State} {eviction : Eviction} {rest : List Eviction}
  {calls : Nat} {next : Dispatcher} {happened : DispatchStep}

/-- The dispatcher takes a notice from the queue, which has a course from now on. -/
theorem Scheduled.take
    (scheduled : Scheduled service ⟨now, standing, .waiting, eviction :: rest, calls⟩ trace
      courses waiting)
    (healthy : (StickyCache.mk standing next).Healthy) (queue : next.queue = rest)
    (call? : Option Nat) (called : ∀ number, call? = some number → number = calls)
    (counted : next.committed = calls + call?.toList.length)
    (work : ∀ queued, workIn [((now, .dispatched happened) : Instant × StickyEvent State)] ++
      next.outstanding service now = (Course.mk eviction queued now call?).steps service)
    (busy : ∀ queued ends, next.doneAt? service now = some ends →
      (Course.mk eviction queued now call?).finished service = ends)
    (idle : ∀ queued, next.doneAt? service now = none →
      (Course.mk eviction queued now call?).finished service = now)
    (stopped : next.phase ≠ .stopped) :
    ∃ courses waiting, Scheduled service ⟨now, standing, next⟩
      (trace ++ [(now, .dispatched happened)]) courses waiting := by
  obtain ⟨queued, later, split, remaining, onTime⟩ := scheduled.turn
  let course : Course := ⟨eviction, queued, now, call?⟩
  have notBefore : now ≤ course.finished service := course.taken_le_finished service
  have before := scheduled.work
  have numbered := scheduled.numbered
  simp only [Dispatcher.outstanding, List.append_nil, Dispatcher.committed, Dispatcher.checked,
    List.length_nil, Nat.add_zero] at before numbered
  refine ⟨courses ++ [course], later, ⟨⟨?_, ?_, ?_, ?_, ?_⟩, healthy, ?_, ?_, ?_, ?_, ?_, ?_, ?_⟩⟩
  · simp [scheduled.queued, split, course, Course.queuing]
  · exact remaining.trans queue.symm
  · rw [workIn_append, List.append_assoc, work queued, before, List.flatMap_append]
    simp [course]
  · apply scheduled.inTurn.concat onTime
    intro number made
    rw [called number made, numbered]
  · intro notice _
    rw [free_concat]
    exact Nat.le_trans notBefore (Nat.le_max_right _ _)
  · simp only [counted, numbered, List.filterMap_append, List.length_append]
    cases call? <;> simp [course]
  · simpa using scheduled.past
  · simpa using scheduled.ordered
  · intro other member
    rcases List.mem_append.mp member with earlier | same
    · exact scheduled.taken other earlier
    · rw [List.mem_singleton.mp same]
      exact Nat.le_refl _
  · intro ends done
    have ended := busy queued ends done
    rw [free_concat]
    refine ⟨ended, ?_⟩
    rw [← ended]
    exact notBefore
  · intro none
    rw [free_concat]
    exact Nat.le_of_eq (congrArg Duration.nanoseconds (idle queued none))
  · intro phase
    exact absurd phase stopped

/-- The call of a notice begins at the moment of the check. -/
theorem Scheduled.call {queue : List Eviction}
    (scheduled : Scheduled service ⟨now, standing, .checked eviction, queue, calls⟩ trace courses
      waiting)
    (healthy : (StickyCache.mk standing ⟨.calling eviction (now + (service.call calls).1)
      (service.call calls).2, queue, calls + 1⟩).Healthy) :
    Scheduled service ⟨now, standing, .calling eviction (now + (service.call calls).1)
      (service.call calls).2, queue, calls + 1⟩
      (trace ++ [(now, .dispatched (.called eviction))]) courses waiting := by
  refine ⟨⟨?_, scheduled.queue, ?_, scheduled.inTurn, scheduled.punctual⟩, healthy,
    scheduled.numbered, ?_, ?_, scheduled.taken, scheduled.busy, nofun, nofun⟩
  · simpa using scheduled.queued
  · rw [workIn_append, ← scheduled.work, List.append_assoc]
    rfl
  · simpa using scheduled.past
  · simpa using scheduled.ordered

/-- The call in progress ends, and not a moment too late. -/
theorem Scheduled.finish {ends : Instant} {ending : CallEnding} {queue : List Eviction}
    (scheduled : Scheduled service ⟨now, standing, .calling eviction ends ending, queue, calls⟩
      trace courses waiting)
    (healthy : (StickyCache.mk standing ⟨.waiting, queue, calls⟩).Healthy) (due : ends ≤ now) :
    Scheduled service ⟨now, standing, .waiting, queue, calls⟩
      (trace ++ [(now, .dispatched (.ended eviction ending))]) courses waiting := by
  obtain ⟨isFree, early⟩ := scheduled.busy ends rfl
  obtain rfl : ends = now := Duration.le_antisymm due early
  refine ⟨⟨?_, scheduled.queue, ?_, scheduled.inTurn, scheduled.punctual⟩, healthy,
    scheduled.numbered, ?_, ?_, scheduled.taken, nofun, ?_, nofun⟩
  · simpa using scheduled.queued
  · rw [workIn_append, ← scheduled.work]
    simp [Dispatcher.outstanding, workIn, StickyEvent.work?]
  · simpa using scheduled.past
  · simpa using scheduled.ordered
  · intro _
    rw [isFree]
    exact Nat.le_refl _

theorem Scheduled.stop
    (scheduled : Scheduled service ⟨now, standing, .waiting, [], calls⟩ trace courses waiting)
    (healthy : (StickyCache.mk standing ⟨.stopped, [], calls⟩).Healthy) :
    Scheduled service ⟨now, standing, .stopped, [], calls⟩
      (trace ++ [(now, .dispatched .stopped)]) courses waiting := by
  refine ⟨⟨?_, scheduled.queue, ?_, scheduled.inTurn, scheduled.punctual⟩, healthy,
    scheduled.numbered, ?_, ?_, scheduled.taken, nofun, scheduled.idle, fun _ => rfl⟩
  · simpa using scheduled.queued
  · rw [workIn_append, ← scheduled.work]
    simp [Dispatcher.outstanding, workIn, StickyEvent.work?]
  · simpa using scheduled.past
  · simpa using scheduled.ordered

theorem Scheduled.dispatch (calm : service.NeverCrashes) (whole : service.InMilliseconds)
    {dispatcher : Dispatcher}
    (scheduled : Scheduled service ⟨now, standing, dispatcher⟩ trace courses waiting)
    (moved : Dispatcher.Moves service standing.view now dispatcher next happened) :
    ∃ courses waiting, Scheduled service ⟨now, standing, next⟩
      (trace ++ [(now, .dispatched happened)]) courses waiting := by
  have healthy := scheduled.healthy.dispatch calm moved
  cases moved with
  | skip stale =>
      exact scheduled.take healthy rfl none nofun rfl (fun _ => rfl) nofun (fun _ _ => rfl) nofun
  | @check eviction rest calls fresh =>
      have call := ResetService.call_eq whole calls
      apply scheduled.take healthy rfl (some calls)
      · rintro number ⟨⟩
        rfl
      · rfl
      · intro queued
        simp only [Dispatcher.outstanding, call]
        rfl
      · rintro queued ends ⟨⟩
        rw [call]
        rfl
      · exact nofun
      · exact nofun
  | call => exact ⟨courses, waiting, scheduled.call healthy⟩
  | finish due answered => exact ⟨courses, waiting, scheduled.finish healthy due⟩
  | crash due => exact absurd rfl (scheduled.healthy.answers _ _ _ rfl)
  | stop closed => exact ⟨courses, waiting, scheduled.stop healthy⟩

/-- While the dispatcher waits for a notice there is none, and a call is not over before time. -/
theorem Scheduled.pass {later : Instant} {dispatcher : Dispatcher}
    (scheduled : Scheduled service ⟨now, standing, dispatcher⟩ trace courses waiting)
    (passes : now ≤ later) (waits : dispatcher.step service standing.view now = none)
    (inTime : ∀ ends, dispatcher.timer? = some ends → later ≤ ends) :
    Scheduled service ⟨later, standing, dispatcher⟩ trace courses waiting := by
  have idle : dispatcher.timer? = none → waiting = [] := by
    intro timer
    have empty : dispatcher.queue = [] := by
      obtain ⟨phase, queue, calls⟩ := dispatcher
      cases phase with
      | waiting => exact Dispatcher.queue_of_waits waits
      | checked eviction => cases waits
      | calling eviction ends ending => cases timer
      | stopped => exact scheduled.stopped rfl
      | crashed => exact absurd rfl scheduled.healthy.alive
    have queue := scheduled.queue
    rw [empty] at queue
    exact List.map_eq_nil_iff.mp queue
  have busy : ∀ ends, dispatcher.timer? = some ends → free service courses = ends := by
    intro ends timer
    apply (scheduled.busy ends ?_).1
    exact (Dispatcher.outstanding_of_waits waits now).2.trans timer
  obtain ⟨same, done⟩ := Dispatcher.outstanding_of_waits waits later
  refine ⟨⟨scheduled.queued, scheduled.queue, ?_, scheduled.inTurn, ?_⟩,
    scheduled.healthy, scheduled.numbered, ?_, scheduled.ordered, ?_, ?_, ?_, scheduled.stopped⟩
  · simp only [same]
    exact scheduled.work
  · intro notice next
    cases timer : dispatcher.timer? with
    | none =>
        rw [idle timer] at next
        cases next
    | some ends =>
        apply Nat.le_trans (inTime ends timer)
        rw [busy ends timer]
        exact Nat.le_max_right _ _
  · intro queuing member
    exact Nat.le_trans (scheduled.past queuing member) passes
  · intro course member
    exact Nat.le_trans (scheduled.taken course member) passes
  · intro ends timer
    rw [done] at timer
    exact ⟨busy ends timer, inTime ends timer⟩
  · intro timer
    rw [done] at timer
    apply Nat.le_trans (scheduled.idle ?_) passes
    exact (Dispatcher.outstanding_of_waits waits now).2.trans timer

end Dispatch

/-- An operation takes no time. What it queues is queued now, behind all the rest. -/
theorem Scheduled.enqueue {now : Instant} {sticky next : StickyCache State}
    {effects : List (CacheEffect State)}
    (scheduled : Scheduled service ⟨now, sticky⟩ trace courses waiting) (healthy : next.Healthy)
    (queued : next.dispatcher =
      StickyCache.queued sticky.dispatcher (effects.filterMap CacheEffect.queued?))
    (closed : sticky.dispatcher.phase = .stopped →
      effects.filterMap CacheEffect.queued? = []) :
    ∃ courses waiting, Scheduled service ⟨now, next⟩
      (trace ++ effects.map fun effect => (now, .effect effect)) courses waiting := by
  let new := (effects.filterMap CacheEffect.queued?).map fun eviction => (now, eviction)
  have nowQueued : ∀ queuing ∈ new, queuing.1 = now := by
    intro queuing member
    obtain ⟨eviction, -, rfl⟩ := List.mem_map.mp member
    rfl
  refine ⟨courses, waiting ++ new, ⟨⟨?_, ?_, ?_, scheduled.inTurn, ?_⟩, healthy, ?_, ?_, ?_,
    scheduled.taken, ?_, ?_, ?_⟩⟩
  · rw [queuingsIn_append, queuingsIn_effects, scheduled.queued, List.append_assoc]
  · have all : new.map Prod.snd = effects.filterMap CacheEffect.queued? := by
      simp [new, Function.comp_def]
    rw [List.map_append, scheduled.queue, all, queued]
    rfl
  · rw [workIn_append, workIn_effects, List.append_nil, queued]
    exact scheduled.work
  · intro notice next
    cases waiting with
    | nil =>
        have same : notice.1 = now := nowQueued notice (List.mem_of_mem_head? next)
        rw [same]
        exact Nat.le_max_left _ _
    | cons first rest => exact scheduled.punctual notice next
  · rw [queued]
    exact scheduled.numbered
  · intro queuing member
    rw [queuingsIn_append, queuingsIn_effects] at member
    rcases List.mem_append.mp member with earlier | latest
    · exact scheduled.past queuing earlier
    · rw [nowQueued queuing latest]
      exact Nat.le_refl _
  · rw [queuingsIn_append, queuingsIn_effects, List.pairwise_append]
    refine ⟨scheduled.ordered, ?_, ?_⟩
    · apply List.pairwise_of_forall_mem_list
      intro earlier isNew later isNewToo
      rw [nowQueued earlier isNew, nowQueued later isNewToo]
      exact Nat.le_refl _
    · intro earlier member later isNew
      rw [nowQueued later isNew]
      exact scheduled.past earlier member
  · rw [queued]
    exact scheduled.busy
  · rw [queued]
    exact scheduled.idle
  · rw [queued]
    intro stopped
    rw [StickyCache.queue_queued, closed stopped, List.append_nil]
    exact scheduled.stopped stopped

/-- Of all that had their turn, only the notice in flight is not finished. -/
theorem Scheduled.unfinished_le {moment : StickyMoment State}
    (scheduled : Scheduled service moment trace courses waiting) :
    (unfinished service courses moment.now).length ≤
      moment.sticky.dispatcher.inFlight.length := by
  cases done : moment.sticky.dispatcher.doneAt? service moment.now with
  | none =>
      rw [scheduled.inTurn.unfinished_eq_nil (scheduled.idle done)]
      exact Nat.zero_le _
  | some ends =>
      rw [Dispatcher.length_inFlight_of_doneAt done]
      apply scheduled.inTurn.length_unfinished_le
      exact scheduled.taken

theorem Scheduled.taken_le {moment : StickyMoment State}
    (scheduled : Scheduled service moment trace courses waiting) {earlier : List Course}
    {course : Course} (isPrefix : earlier ++ [course] <+: courses) :
    course.taken ≤
      deadline service course.queued (unfinished service earlier course.queued).length := by
  have ordered := scheduled.ordered
  rw [scheduled.queued, List.pairwise_append, List.pairwise_map] at ordered
  exact scheduled.inTurn.taken_le ordered.1 isPrefix

/-- Nobody waits beyond a deadline. -/
theorem Scheduled.now_le {moment : StickyMoment State}
    (scheduled : Scheduled service moment trace courses waiting)
    {earlier : List (Instant × Eviction)} {notice : Instant × Eviction}
    (isPrefix : earlier ++ [notice] <+: waiting) :
    moment.now ≤ deadline service notice.1
      ((unfinished service courses notice.1).length + earlier.length) := by
  have ordered := scheduled.ordered
  rw [scheduled.queued, List.pairwise_append] at ordered
  obtain ⟨-, inWaiting, across⟩ := ordered
  obtain ⟨later, rfl⟩ := isPrefix
  have member : notice ∈ earlier ++ [notice] ++ later := by simp
  have isFree : free service courses ≤
      deadline service notice.1 (unfinished service courses notice.1).length := by
    apply scheduled.inTurn.free_le
    intro course taken
    exact across course.queuing (List.mem_map_of_mem taken) notice member
  -- The next notice is on time, and it was queued no later than this one.
  have onTime : moment.now ≤ max notice.1 (free service courses) := by
    cases earlier with
    | nil => exact scheduled.punctual notice rfl
    | cons first rest =>
        have before : first.1 ≤ notice.1 :=
          (List.pairwise_append.mp (List.pairwise_append.mp inWaiting).1).2.2 first
            List.mem_cons_self notice List.mem_cons_self
        have next := scheduled.punctual first rfl
        simp only [Duration.le_iff, Duration.nanoseconds_max] at before next ⊢
        omega
  calc moment.now.nanoseconds
      ≤ (max notice.1 (free service courses)).nanoseconds := onTime
    _ ≤ (deadline service notice.1 (unfinished service courses notice.1).length).nanoseconds :=
        Nat.max_le.mpr ⟨Nat.le_add_right _ _, isFree⟩
    _ ≤ _ := deadline_mono service notice.1 (Nat.le_add_right _ _)

variable [DecidableEq State]

theorem kept_scheduled (calm : service.NeverCrashes) (whole : service.InMilliseconds) :
    KeptPromptly service fun (moment : StickyMoment State) trace =>
      ∃ courses waiting, Scheduled service moment trace courses waiting where
  dispatch := by
    rintro now standing dispatcher next happened trace ⟨courses, waiting, scheduled⟩ moved
    exact scheduled.dispatch calm whole moved
  pass := by
    rintro now later standing dispatcher trace ⟨courses, waiting, scheduled⟩ passes waits inTime
    exact ⟨courses, waiting, scheduled.pass passes waits inTime⟩
  operate := by
    rintro moment trace operation ⟨courses, waiting, scheduled⟩
    have healthy := scheduled.healthy
    apply scheduled.enqueue (healthy.perform operation)
    · exact StickyCache.dispatcher_perform healthy operation
    · intro stopped
      simp only [StickyCache.perform, healthy.stops stopped]
      rfl
  crashInserting := by
    rintro moment trace crash ⟨courses, waiting, scheduled⟩
    obtain ⟨silent, same⟩ := moment.sticky.effects_crashInserting crash
    have healthy := move_healthy calm scheduled.healthy (.crashInserting crash)
    apply scheduled.enqueue healthy
    · simp [silent, same, StickyCache.queued, move, operated]
    · intro _
      rw [silent]
      rfl
  drop := by
    rintro moment trace ⟨courses, waiting, scheduled⟩
    have healthy := move_healthy calm scheduled.healthy .drop
    apply scheduled.enqueue healthy
    · rw [StickyCache.queued_drop]
      simp [StickyCache.queued, move, operated, StickyCache.drop]
    · intro _
      exact StickyCache.queued_drop _

/-- If nobody keeps the dispatcher from working, each notice has its turn as soon as it is queued
and the one before it is finished, and takes its course from there. It waits for no more than a
timeout for each notice that is ahead of it, one of which may be in flight. -/
theorem notices_are_handled_on_time (calm : service.NeverCrashes)
    (whole : service.InMilliseconds) {capacity : Nat} {runtime : Bool} {sticky : StickyCache State}
    (created : StickyCache.create capacity service.timeout runtime = .ok sticky)
    {moves : List (StickyMove State)} (prompt : (start sticky).Prompt service moves) :
    let reached := (start sticky).run service moves
    ∃ courses waiting, OnSchedule service reached.1 reached.2 courses waiting ∧
      (∀ before move after, moves = before ++ move :: after →
        let moment := ((start sticky).run service before).1
        ∀ event ∈ (moment.move service move).trace, Judged moment.sticky event.2) ∧
      (∀ earlier course, earlier ++ [course] <+: courses →
        course.taken ≤
          deadline service course.queued (unfinished service earlier course.queued).length) ∧
      (∀ earlier notice, earlier ++ [notice] <+: waiting →
        reached.1.now ≤ deadline service notice.1
          ((unfinished service courses notice.1).length + earlier.length)) ∧
      (unfinished service courses reached.1.now).length ≤
        reached.1.sticky.dispatcher.inFlight.length ∧
      ∀ course ∈ courses, ∀ number, course.call? = some number →
        service.outcome number = .timedOut →
        (course.steps service).filterMap (fun step => step.2.event? service.timeout) =
          [.say .warn "cannot reset sticky execution: the call timed out"
            [("execution", .text course.eviction.key.text),
              ("task_list", .text course.eviction.taskList),
              ("timeout", .text service.timeout.text)]] := by
  intro reached
  have fresh : sticky.dispatcher = .start := by rw [(StickyCache.eq_of_create created).2]
  have begun := scheduled_start service (StickyCache.healthy_of_create created) fresh
  obtain ⟨courses, waiting, scheduled⟩ := (kept_scheduled calm whole).run ⟨[], [], begun⟩ prompt
  refine ⟨courses, waiting, scheduled.toOnSchedule, ?_, ?_, ?_, scheduled.unfinished_le, ?_⟩
  · intro before move _ _
    exact judged_move service _ move
  · intro earlier course
    exact scheduled.taken_le
  · intro earlier notice
    exact scheduled.now_le
  · intro course _ number called timedOut
    simp [Course.steps, called, timedOut, DispatchStep.event?, CallEnding.event?, executionField]

/-- The first call takes just the ten milliseconds that it is given, the second takes forever, and
the others fail after three. -/
def unevenService : ResetService where
  timeout := .ofMilliseconds 10
  behaviour
    | 0 => ⟨some (.ofMilliseconds 10), .success⟩
    | 1 => ⟨none, .success⟩
    | _ => ⟨some (.ofMilliseconds 3), .failure (.reported true "away")⟩

/-- The second notice is stale when its turn comes, and the third call has to wait for the end of
the second. -/
theorem notices_are_handled_on_time_by_uneven_service :
    let first : ExecutionKey := ⟨"first", "run", by decide, by decide⟩
    let second : ExecutionKey := ⟨"second", "run", by decide, by decide⟩
    let sticky : StickyCache Nat := ⟨.live (.empty 1), .start⟩
    let moves : List (StickyMove Nat) :=
      [.operate (.put first 1 "tasks"), .operate (.put second 2 "tasks"),
        .advance (.ofMilliseconds 4), .operate (.put first 3 "tasks"),
        .operate (.put second 4 "tasks"), .advance (.ofMilliseconds 8),
        .operate (.put first 5 "tasks"), .advance (.ofMilliseconds 20)]
    let reached := (start sticky).run unevenService moves
    unevenService.NeverCrashes ∧ unevenService.InMilliseconds ∧
      StickyCache.create 1 unevenService.timeout true = .ok sticky ∧
      (start sticky).Prompt unevenService moves ∧
      ∃ courses waiting, OnSchedule unevenService reached.1 reached.2 courses waiting ∧
        courses.flatMap (fun course => course.steps unevenService) =
          [(.zero, .checked ⟨first, "tasks", 1⟩), (.zero, .called ⟨first, "tasks", 1⟩),
            (.ofMilliseconds 10, .ended ⟨first, "tasks", 1⟩ (.answered .success)),
            (.ofMilliseconds 10, .skipped ⟨second, "tasks", 2⟩),
            (.ofMilliseconds 10, .checked ⟨first, "tasks", 3⟩),
            (.ofMilliseconds 10, .called ⟨first, "tasks", 3⟩),
            (.ofMilliseconds 20, .ended ⟨first, "tasks", 3⟩ .timedOut),
            (.ofMilliseconds 20, .checked ⟨second, "tasks", 4⟩),
            (.ofMilliseconds 20, .called ⟨second, "tasks", 4⟩),
            (.ofMilliseconds 23,
              .ended ⟨second, "tasks", 4⟩ (.answered (.failure (.reported true "away"))))] := by
  intro first second sticky moves reached
  have calm : unevenService.NeverCrashes := by
    rintro (_ | _ | number)
    · decide
    · decide
    · exact nofun
  have whole : unevenService.InMilliseconds := by
    refine ⟨Duration.whole_ofMilliseconds 10, ?_⟩
    rintro (_ | _ | number) latency ⟨⟩
    · exact Duration.whole_ofMilliseconds 10
    · exact Duration.whole_ofMilliseconds 3
  have created : StickyCache.create 1 unevenService.timeout true = .ok sticky := rfl
  have prompt : (start sticky).Prompt unevenService moves :=
    prompt_of_no_pass unevenService (by simp [moves]) (start sticky)
  obtain ⟨courses, waiting, onSchedule, -⟩ :=
    notices_are_handled_on_time calm whole created prompt
  refine ⟨calm, whole, created, prompt, courses, waiting, onSchedule, ?_⟩
  rw [← onSchedule.work]
  decide +kernel

end StickyMoment

end DecisionWorker
