import DecisionWorker.Proofs.Eviction.Moves
import DecisionWorker.Proofs.Poller.Waits

set_option autoImplicit false

/-!
What is left to do once the token is cancelled.

The effort of a poller bounds the moves that its loops and its runner can still make: each of them
lowers it, and nobody else raises it (`strides_le`). Until the runner has finished somebody can
move, or there is a moment to wait for, so a cancelled poller can always get to its end
(`exists_return`).
-/

namespace DecisionWorker

def LoopPhase.effort : LoopPhase → Nat
  | .ended => 0
  | .holding _ => 1
  | .poll => 1
  | .calling _ _ _ => 1
  | .resting _ _ => 1
  | .throttle => 2
  | .handling _ _ _ _ => 3
  | .received _ => 4

/-- The moves that the runner can still make, and those of the loops that it has not begun yet. -/
def RunnerPhase.effort (loops : Nat) : RunnerPhase → Nat
  | .idle => 3 * loops + 2
  | .joining remaining => remaining + 1
  | .finished _ => 0

theorem LoopPhase.effort_le (phase : LoopPhase) : phase.effort ≤ 4 := by
  cases phase <;> simp [effort]

namespace PollerState

def loopEffort : List LoopPhase → Nat
  | [] => 0
  | phase :: rest => phase.effort + loopEffort rest

def effort (poller : Poller) (current : PollerState) : Nat :=
  loopEffort current.loops + current.runner.effort poller.loops

/-- Whether a loop or the runner moves, rather than waits. -/
def stride (poller : Poller) (current : PollerState) : CompanyMove → Nat
  | .own (.task .dispatcher) => 0
  | .own (.task task) => if current.canMove poller task then 1 else 0
  | .own .cancel => 0
  | .own (.pass _) => 0
  | .visit _ => 0

theorem loopEffort_replicate (times : Nat) (phase : LoopPhase) :
    loopEffort (List.replicate times phase) = times * phase.effort := by
  induction times with
  | zero => simp [loopEffort]
  | succ times inductionHypothesis =>
      rw [List.replicate_succ, loopEffort, inductionHypothesis, Nat.succ_mul, Nat.add_comm]

theorem loopEffort_set {loops : List LoopPhase} {index : Nat} {phase : LoopPhase}
    (stands : loops[index]? = some phase) (next : LoopPhase) :
    loopEffort (loops.set index next) + phase.effort = loopEffort loops + next.effort := by
  induction loops generalizing index with
  | nil => cases stands
  | cons first rest inductionHypothesis =>
      cases index with
      | zero =>
          cases stands
          simp only [List.set_cons_zero, loopEffort]
          omega
      | succ index =>
          have others := inductionHypothesis stands
          simp only [List.set_cons_succ, loopEffort]
          omega

section Effort

variable {poller : Poller} {current : PollerState}

theorem loopEffort_le (loops : List LoopPhase) : loopEffort loops ≤ loops.length * 4 := by
  induction loops with
  | nil => exact Nat.le_refl 0
  | cons phase rest inductionHypothesis =>
      have first := phase.effort_le
      simp only [loopEffort, List.length_cons]
      omega

theorem effort_le (rostered : Rostered poller current) :
    current.effort poller ≤ 5 * poller.loops + 2 := by
  have loops := loopEffort_le current.loops
  unfold effort
  cases runner : current.runner with
  | idle =>
      rw [(rostered.idle runner).1] at loops ⊢
      simp only [RunnerPhase.effort, List.length_nil] at loops ⊢
      omega
  | joining remaining =>
      have few := rostered.atMost runner
      rw [(rostered.joining runner).1] at loops
      simp only [RunnerPhase.effort]
      omega
  | finished moment =>
      have ended : loopEffort current.loops = 0 := by
        rw [(rostered.finished runner).1, loopEffort_replicate]
        rfl
      simp only [RunnerPhase.effort, ended]
      omega

theorem stride_le_one (move : CompanyMove) : current.stride poller move ≤ 1 := by
  unfold stride
  split <;> try omega
  split <;> omega

/-- Under a cancelled token every move brings a loop closer to its end. -/
theorem LoopStep.effort_lt (cancelled : current.cancelled = true) {loop : Nat} {phase : LoopPhase}
    {outcome : Outcome} (step : LoopStep poller current loop phase outcome) :
    ∃ next : LoopPhase, outcome.1.loops = current.loops.set loop next ∧
      next.effort < phase.effort := by
  have stopped : ∀ {whatever : Prop}, current.cancelled = false → whatever :=
    fun going => by cases cancelled.symm.trans going
  cases step with
  | wake going | call going | callAgain going | succeed going | fail _ going | rest _ going
  | crashPolling _ going => exact stopped going
  | release | hold | crashAsking | crashLooking | store | forget | crashConcluding
  | crashHandling =>
      exact ⟨_, rfl, by simp [LoopPhase.effort]⟩
  | @abandon phase waits =>
      refine ⟨.ended, rfl, ?_⟩
      cases phase with
      | holding | poll | calling | resting => exact Nat.one_pos
      | throttle | received | handling | ended => rcases waits with no | no <;> cases no
  | @handle task usable =>
      obtain ⟨_, _, _, same, -⟩ := handle_eq poller usable loop task
      rw [same]
      exact ⟨_, rfl, by simp [LoopPhase.effort]⟩

theorem Happens.effort_le (rostered : Rostered poller current)
    (cancelled : current.cancelled = true) {move : CompanyMove} {outcome : Outcome}
    (happens : Happens poller current move outcome) :
    current.stride poller move + outcome.1.effort poller ≤ current.effort poller := by
  have once : current.stride poller move ≤ 1 := stride_le_one move
  cases happens with
  | loop stands step =>
      obtain ⟨next, loops, less⟩ := step.effort_lt cancelled
      obtain ⟨_, moves⟩ := step.movesItself
      have balance := loopEffort_set stands next
      simp only [effort, loops, moves.runner]
      omega
  | begins idle =>
      have spent : loopEffort (List.replicate poller.loops .throttle) = poller.loops * 2 :=
        loopEffort_replicate poller.loops .throttle
      simp only [effort, spent, idle, RunnerPhase.effort]
      omega
  | @joins remaining crash rest joining departed =>
      obtain ⟨-, count⟩ := rostered.joining joining
      rw [departed, List.length_cons] at count
      simp only [effort, joining, RunnerPhase.effort]
      omega
  | finishes joining =>
      have same : (current.perform .clear).1.loops = current.loops := rfl
      simp only [effort, joining, RunnerPhase.effort, same]
      omega
  | @waits task step =>
      have waits : current.stride poller (.own (.task task)) = 0 := by
        cases task <;> simp [stride, canMove, step]
      exact Nat.le_of_eq (waits ▸ Nat.zero_add _)
  | dispatches | cancels | passes | visits => exact Nat.le_of_eq (Nat.zero_add _)

end Effort

section Progress

variable {poller : Poller} {current : PollerState}

theorem earliest_mem {moments : List Instant} {first : Instant}
    (found : earliest moments = some first) : first ∈ moments := by
  induction moments generalizing first with
  | nil => cases found
  | cons moment rest inductionHypothesis =>
      rw [earliest] at found
      split at found
      next =>
        cases found
        exact List.mem_cons_self
      next other others =>
        have inRest := inductionHypothesis others
        cases found
        rcases Nat.le_total moment.nanoseconds other.nanoseconds with before | before
        · have same : min moment other = moment := congrArg Duration.mk (Nat.min_eq_left before)
          rw [same]
          exact List.mem_cons_self
        · have same : min moment other = other := congrArg Duration.mk (Nat.min_eq_right before)
          rw [same]
          exact List.mem_cons_of_mem _ inRest

theorem earliest_le {moments : List Instant} {moment : Instant} (member : moment ∈ moments) :
    ∃ first, earliest moments = some first ∧ first ≤ moment := by
  induction moments with
  | nil => cases member
  | cons head rest inductionHypothesis =>
      rw [earliest]
      rcases List.mem_cons.mp member with rfl | inRest
      · cases earliest rest with
        | none => exact ⟨_, rfl, Nat.le_refl _⟩
        | some other => exact ⟨_, rfl, Nat.min_le_left _ _⟩
      · obtain ⟨other, found, before⟩ := inductionHypothesis inRest
        rw [found]
        exact ⟨_, rfl, Nat.le_trans (Nat.min_le_right _ _) before⟩

/-- Under a cancelled token only a loop whose handler works has to wait. -/
theorem handling_of_quiet (cancelled : current.cancelled = true)
    (quiet : current.ready poller = []) {loop : Nat} {phase : LoopPhase}
    (stands : current.loops[loop]? = some phase) (here : phase ≠ .ended) :
    ∃ task cached ends answer, phase = .handling task cached ends answer := by
  have waits := not_able_of_ready_eq_nil quiet stands
  rw [cancelled] at waits
  cases phase with
  | handling => exact ⟨_, _, _, _, rfl⟩
  | ended => exact absurd rfl here
  | throttle | holding | poll | calling | resting | received => cases waits

theorem lt_of_waits {phase : LoopPhase} {now wake : Instant} {cancelled : Bool}
    (waits : phase.able now cancelled = false) (timed : timerOf phase = some wake) :
    now < wake := by
  cases phase with
  | holding | calling | resting =>
      cases timed
      simpa [Duration.le_iff, Duration.lt_iff] using (Bool.or_eq_false_iff.mp waits).2
  | handling =>
      cases timed
      simpa [LoopPhase.able, Duration.le_iff, Duration.lt_iff] using waits
  | throttle | poll | received | ended => cases timed

theorem canMove_loop (loop : Nat) :
    current.canMove poller (.loop loop) = (current.loops[loop]?.map current.able).getD false :=
  isSome_stepLoop poller current loop

theorem mem_ready_iff {task : WorkerTask} :
    task ∈ current.ready poller ↔ current.canMove poller task = true := by
  cases task with
  | dispatcher | runner => simp [ready]
  | loop loop =>
      rw [canMove_loop]
      cases stands : current.loops[loop]? <;>
        simp [ready, List.mk_mem_zipIdx_iff_getElem?, stands]

theorem dispatcher_waits (quiet : current.ready poller = []) :
    current.sticky.dispatcher.step poller.resets current.sticky.view current.now = none := by
  have nobody := (List.append_eq_nil_iff.mp quiet).1
  rw [List.filter_eq_nil_iff] at nobody
  have waits := nobody .dispatcher (by simp)
  simpa [canMove, PollerState.step, stepDispatcher, StickyCache.dispatch] using waits

theorem lt_of_mem_timers (quiet : current.ready poller = []) {timer : Instant}
    (member : timer ∈ current.timers) : current.now < timer := by
  rcases List.mem_append.mp member with dispatcher | loops
  · exact Dispatcher.lt_timer_of_step_eq_none (dispatcher_waits quiet)
      (Option.mem_toList.mp dispatcher)
  · obtain ⟨phase, inLoops, timed⟩ := List.mem_filterMap.mp loops
    obtain ⟨loop, stands⟩ := List.mem_iff_getElem?.mp inLoops
    have waits := not_able_of_ready_eq_nil quiet stands
    exact lt_of_waits waits timed

/-- Less is left to do, if only for the dispatcher. -/
def Closer (poller : Poller) (next current : PollerState) : Prop :=
  next.effort poller < current.effort poller ∨
    next.effort poller = current.effort poller ∧
      next.sticky.dispatcher.load < current.sticky.dispatcher.load

theorem Happens.closer (rostered : Rostered poller current) (cancelled : current.cancelled = true)
    {task : WorkerTask} {outcome : Outcome} (able : current.canMove poller task = true)
    (happens : Happens poller current (.own (.task task)) outcome) :
    Closer poller outcome.1 current := by
  have less := happens.effort_le rostered cancelled
  cases task with
  | runner =>
      have once : current.stride poller (.own (.task .runner)) = 1 := if_pos able
      exact .inl (by omega)
  | loop index =>
      have once : current.stride poller (.own (.task (.loop index))) = 1 := if_pos able
      exact .inl (by omega)
  | dispatcher =>
      cases happens with
      | dispatches step => exact .inr ⟨rfl, (Dispatcher.moves_of_step step).load_lt⟩
      | waits step =>
          rw [canMove, step] at able
          cases able

theorem pass_to {moment : Instant} (ahead : current.now ≤ moment) :
    (current.proceed poller (.own (.pass (moment - current.now)))).1 =
      { current with now := moment } :=
  congrArg (fun later : Nat => { current with now := ⟨later⟩ }) (Nat.add_sub_cancel' ahead)

theorem inTime_of_earliest (quiet : current.ready poller = []) {first : Instant}
    (found : earliest current.timers = some first) :
    InTime poller current (.own (.pass (first - current.now))) := by
  refine ⟨quiet, ?_⟩
  intro timer member
  obtain ⟨other, again, before⟩ := earliest_le member
  cases found.symm.trans again
  have ahead : current.now.nanoseconds ≤ first.nanoseconds :=
    Nat.le_of_lt (lt_of_mem_timers quiet (earliest_mem found))
  simp only [Duration.le_iff, Duration.nanoseconds_add, Duration.nanoseconds_sub] at before ⊢
  omega

theorem exists_able_at_earliest {first : Instant}
    (found : earliest current.timers = some first) :
    ∃ task, canMove poller { current with now := first } task = true := by
  rcases List.mem_append.mp (earliest_mem found) with dispatcher | loops
  · refine ⟨.dispatcher, ?_⟩
    have timed : current.sticky.dispatcher.timer? = some first := Option.mem_toList.mp dispatcher
    unfold Dispatcher.timer? at timed
    split at timed
    next eviction ends ending calls =>
      cases timed
      have due : first ≤ first := Nat.le_refl _
      simp [canMove, PollerState.step, stepDispatcher, StickyCache.dispatch, Dispatcher.step,
        calls, due]
    next => cases timed
  · obtain ⟨phase, inLoops, timed⟩ := List.mem_filterMap.mp loops
    obtain ⟨loop, stands⟩ := List.mem_iff_getElem?.mp inLoops
    refine ⟨.loop loop, ?_⟩
    rw [canMove_loop]
    simp only [stands, Option.map_some, Option.getD_some]
    by_contra waits
    exact Nat.lt_irrefl _ (lt_of_waits (Bool.eq_false_iff.mpr waits) timed)

/-- Until the runner has finished somebody can move, or a handler is at work. -/
theorem exists_handling (rostered : Rostered poller current) (cancelled : current.cancelled = true)
    (unfinished : ∀ moment, current.runner ≠ .finished moment)
    (quiet : current.ready poller = []) :
    ∃ (loop : Nat) (task : DecisionTask) (cached : Option StateName) (ends : Instant)
      (answer : HandlerAnswer),
      current.loops[loop]? = some (.handling task cached ends answer) := by
  rcases rostered.progress unfinished with able | ⟨loop, phase, stands, here⟩
  · have ready : .runner ∈ current.ready poller := mem_ready_iff.mpr able
    rw [quiet] at ready
    cases ready
  · obtain ⟨_, _, _, _, rfl⟩ := handling_of_quiet cancelled quiet stands here
    exact ⟨loop, _, _, _, _, stands⟩

/-- Until the runner has finished there is something to do, now or at the next moment for which
someone waits. -/
theorem exists_closer (rostered : Rostered poller current) (cancelled : current.cancelled = true)
    (unfinished : ∀ moment, current.runner ≠ .finished moment) :
    ∃ moves : List PollerMove, Prompt poller current (moves.map .own) ∧
      Closer poller (current.after poller (moves.map .own)) current := by
  cases quiet : current.ready poller with
  | cons task rest =>
      have able : current.canMove poller task = true :=
        mem_ready_iff.mp (quiet ▸ List.mem_cons_self)
      exact ⟨[.task task], ⟨trivial, trivial⟩,
        (happens_proceed poller current _).closer rostered cancelled able⟩
  | nil =>
      obtain ⟨_, _, _, ends, _, stands⟩ := exists_handling rostered cancelled unfinished quiet
      obtain ⟨first, found, -⟩ := earliest_le (mem_timers stands rfl)
      have ahead : current.now < first := lt_of_mem_timers quiet (earliest_mem found)
      -- The clock passes to the earliest moment for which someone waits, who can move then.
      obtain ⟨task, able⟩ := exists_able_at_earliest found
      let later : PollerState := { current with now := first }
      have same : Rostered poller later :=
        ⟨rostered.idle, rostered.joining, rostered.atMost, rostered.finished⟩
      have closer : Closer poller (later.proceed poller (.own (.task task))).1 later :=
        (happens_proceed poller later _).closer same cancelled able
      refine ⟨[.pass (first - current.now), .task task],
        ⟨inTime_of_earliest quiet found, trivial, trivial⟩, ?_⟩
      simp only [List.map_cons, List.map_nil, after_cons, after_nil,
        pass_to (Nat.le_of_lt ahead)]
      exact closer

end Progress

theorem exists_return {poller : Poller} {current : PollerState}
    (rostered : Rostered poller current) (cancelled : current.cancelled = true) :
    ∃ (moves : List PollerMove) (moment : Instant), Prompt poller current (moves.map .own) ∧
      (current.after poller (moves.map .own)).runner = .finished moment := by
  by_cases finished : ∃ moment, current.runner = .finished moment
  · obtain ⟨moment, finished⟩ := finished
    exact ⟨[], moment, trivial, finished⟩
  · obtain ⟨first, prompt, closer⟩ :=
      exists_closer rostered cancelled fun moment same => finished ⟨moment, same⟩
    obtain ⟨others, moment, later, ended⟩ :=
      exists_return (rostered.after (first.map .own)) (cancelled_after (first.map .own) cancelled)
    refine ⟨first ++ others, moment, ?_, ?_⟩
    · rw [List.map_append]
      exact throughout_append.mpr ⟨prompt, later⟩
    · rw [List.map_append, after_append]
      exact ended
termination_by (current.effort poller, current.sticky.dispatcher.load)
decreasing_by
  rcases closer with less | ⟨same, less⟩
  · exact .left _ _ less
  · rw [same]
    exact .right _ less

end PollerState

end DecisionWorker
