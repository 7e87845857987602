import DecisionWorker.Proofs.Eviction.Draining
import DecisionWorker.Proofs.Sticky.Isolation
import DecisionWorker.Proofs.Sticky.Recollection
import DecisionWorker.Proofs.Sticky.Timing

set_option autoImplicit false

/-!
What happens when a cache is dropped, and what its dispatcher does from then on.

The drop disposes the entries that are within reach, in the order of their last touches, and queues
nothing. All that the dispatcher does afterwards is fixed at this moment: it is what `remaining`
says, step by step, whatever else happens (`WindingDown`). If nobody keeps the dispatcher from
working, it has stopped after one timeout for each notice that was pending (`Due`).
-/

namespace DecisionWorker

variable {State : Type}

/-- What is left: all about the notice in flight, and then a call for each notice in the queue. -/
theorem Dispatcher.remaining_eq {service : ResetService} {dispatcher : Dispatcher}
    (present : dispatcher.running = true) (now : Instant) :
    dispatcher.remaining service =
      (dispatcher.outstanding service now).map Prod.snd ++
        service.errands dispatcher.committed dispatcher.queue := by
  obtain ⟨phase, queue, calls⟩ := dispatcher
  cases phase with
  | waiting | checked | calling => rfl
  | stopped | crashed => cases present

section Reports

def stopReports (timeout : Duration) (trace : StickyTrace State) : List Event :=
  (trace.filterMap fun event => event.2.event? timeout).filter fun event =>
    decide (event.message = "eviction dispatcher stopped")

/-- A message about a failed call begins differently, whatever the failure. -/
theorem failed_ne_stopped (text : String) :
    "cannot reset sticky execution: " ++ text ≠ "eviction dispatcher stopped" := by
  intro same
  have first := congrArg (fun message => message.toList.head?) same
  simp at first

theorem stopReports_eq (timeout : Duration) (trace : StickyTrace State) :
    stopReports timeout trace =
      ((stepsIn trace).filter fun step => decide (step = .stopped)).map fun _ =>
        .say .debug "eviction dispatcher stopped" [] := by
  induction trace with
  | nil => rfl
  | cons event rest inductionHypothesis =>
      simp only [stopReports, stepsIn, List.filterMap_cons] at inductionHypothesis ⊢
      obtain ⟨moment, effect | step⟩ := event
      · cases effect <;>
          simpa [StickyEvent.event?, StickyEvent.step?, CacheEffect.event?, Event.say] using
            inductionHypothesis
      · cases step with
        | skipped | checked | called | stopped =>
            simpa [StickyEvent.event?, StickyEvent.step?, DispatchStep.event?, Event.say] using
              inductionHypothesis
        | ended eviction ending =>
            rcases ending with (_ | error | _) | _ <;>
              simpa [StickyEvent.event?, StickyEvent.step?, DispatchStep.event?,
                CallEnding.event?, Event.say, failed_ne_stopped] using inductionHypothesis

end Reports

namespace StickyMoment

/-- From the drop of the cache on the dispatcher does what is left to do, and it rests only while a
call goes on. -/
structure FollowsScript (service : ResetService) (script : List DispatchStep)
    (moment : StickyMoment State) (trace : StickyTrace State) : Prop where
  steps : stepsIn trace <+: script
  stopped_iff : moment.sticky.dispatcher.phase = .stopped ↔ stepsIn trace = script
  busy : moment.sticky.dispatcher.phase ≠ .stopped →
    moment.sticky.dispatch service moment.now = none →
    ∃ ends, moment.sticky.dispatcher.timer? = some ends ∧ moment.now < ends ∧
      ends ≤ moment.now + service.timeout.roundUp

/-- No call ends later than one timeout from now. -/
def InTime (service : ResetService) (moment : StickyMoment State) : Prop :=
  ∀ ends, moment.sticky.dispatcher.timer? = some ends →
    ends ≤ moment.now + service.timeout.roundUp

theorem inTime_of_create {service : ResetService} {capacity : Nat} {timeout : Duration}
    {runtime : Bool} {sticky : StickyCache State}
    (created : StickyCache.create capacity timeout runtime = .ok sticky) :
    InTime service (start sticky) := by
  obtain ⟨-, rfl⟩ := StickyCache.eq_of_create created
  intro ends timer
  cases timer

theorem InTime.pass {service : ResetService} {now later : Instant} {sticky : StickyCache State}
    (inTime : InTime service ⟨now, sticky⟩) (passes : now ≤ later) :
    InTime service ⟨later, sticky⟩ :=
  fun ends timer => Nat.le_trans (inTime ends timer) (Nat.add_le_add_right passes _)

structure WindingDown (service : ResetService) (script : List DispatchStep)
    (moment : StickyMoment State) (trace : StickyTrace State) : Prop where
  dropped : moment.sticky.standing = .dropped
  healthy : moment.sticky.Healthy
  inTime : InTime service moment
  account : stepsIn trace ++ moment.sticky.dispatcher.remaining service = script

theorem WindingDown.followsScript {service : ResetService} {script : List DispatchStep}
    {moment : StickyMoment State} {trace : StickyTrace State}
    (winding : WindingDown service script moment trace) :
    FollowsScript service script moment trace := by
  have healthy := winding.healthy
  refine ⟨⟨_, winding.account⟩, ?_, ?_⟩
  · rw [← winding.account, List.self_eq_append_right, Dispatcher.remaining_eq_nil_iff healthy.alive]
  · intro goesOn waits
    obtain ⟨now, standing, dispatcher⟩ := moment
    obtain rfl : standing = .dropped := winding.dropped
    rw [StickyCache.dispatch_eq, Option.map_eq_none_iff] at waits
    obtain ⟨ends, timer, later⟩ := Dispatcher.calling_of_waits rfl healthy.alive goesOn waits
    exact ⟨ends, timer, later, winding.inTime ends timer⟩

variable [DecidableEq State]

theorem kept_inTime (service : ResetService) :
    Kept service fun (moment : StickyMoment State) _ => InTime service moment := by
  refine Kept.of_uses ⟨fun _ moved _ timer => moved.timer_le timer, ?_⟩ ?_
  · exact fun inTime passes => inTime.pass passes
  · intro moment _ move used inTime moved ends timer
    rw [Dispatcher.timer?, phase_of_use service moment used] at timer
    rw [now_of_use service moment used]
    exact inTime ends timer

theorem kept_stopped (service : ResetService) :
    Kept service fun (moment : StickyMoment State) trace =>
      .stopped ∈ stepsIn trace → moment.sticky.dispatcher.phase = .stopped := by
  refine Kept.of_uses ⟨?_, fun before _ => before⟩ ?_
  · intro now standing dispatcher next happened trace before moved last
    rw [stepsIn_append, stepsIn_dispatched] at last
    rcases List.mem_append.mp last with earlier | latest
    · exact absurd (before earlier) moved.goesOn.1
    · obtain rfl := List.mem_singleton.mp latest
      cases moved
      rfl
  · intro moment trace move used before moved last
    rw [stepsIn_append, stepsIn_of_use service moment used, List.append_nil] at last
    exact (phase_of_use service moment used).trans (before last)

theorem stopped_of_last {service : ResetService} {sticky : StickyCache State}
    {moves : List (StickyMove State)}
    (last : .stopped ∈ stepsIn ((start sticky).run service moves).2) :
    ((start sticky).run service moves).1.sticky.dispatcher.phase = .stopped := by
  have none : .stopped ∉ stepsIn ([] : StickyTrace State) := List.not_mem_nil
  exact (kept_stopped service).run (fun first => absurd first none) moves last

theorem kept_windingDown {service : ResetService} (calm : service.NeverCrashes)
    (script : List DispatchStep) :
    Kept service (WindingDown service script :
      StickyMoment State → StickyTrace State → Prop) := by
  refine Kept.of_uses ⟨?_, ?_⟩ ?_
  · intro now standing dispatcher next happened trace winding moved
    have healthy := winding.healthy.dispatch calm moved
    have fresh : ∀ eviction, standing.view.stale eviction = false := by
      rw [show standing = .dropped from winding.dropped]
      exact fun _ => rfl
    refine ⟨winding.dropped, healthy, fun _ timer => moved.timer_le timer, ?_⟩
    rw [stepsIn_append, stepsIn_dispatched, List.append_assoc, List.singleton_append,
      ← moved.remaining fresh healthy.alive]
    exact winding.account
  · intro now later sticky trace winding passes
    exact ⟨winding.dropped, winding.healthy, winding.inTime.pass passes, winding.account⟩
  · intro moment trace move used winding moved
    obtain ⟨same, silent⟩ := move_of_dropped service winding.dropped used
    simp only [moved, same, silent, List.append_nil]
    exact winding

structure Due (service : ResetService) (deadline : Instant) (moment : StickyMoment State) :
    Prop where
  dropped : moment.sticky.standing = .dropped
  healthy : moment.sticky.Healthy
  busy : moment.sticky.dispatcher.busyUntil service moment.now ≤ deadline

theorem Due.use (service : ResetService) {deadline : Instant} {moment : StickyMoment State}
    (due : Due service deadline moment) {move : StickyMove State} (used : ¬ move.Background) :
    Due service deadline (moment.move service move).after := by
  rw [(move_of_dropped service due.dropped used).1]
  exact due

theorem kept_due {service : ResetService} (calm : service.NeverCrashes) (deadline : Instant) :
    KeptPromptly service fun (moment : StickyMoment State) _ => Due service deadline moment where
  dispatch due moved :=
    ⟨due.dropped, due.healthy.dispatch calm moved, Nat.le_trans moved.busyUntil_le due.busy⟩
  pass {now later standing dispatcher trace} due passes waits inTime := by
    refine ⟨due.dropped, due.healthy, ?_⟩
    obtain rfl : standing = .dropped := due.dropped
    by_cases goesOn : dispatcher.phase = .stopped
    · simp only [Dispatcher.busyUntil, goesOn]
      exact Nat.zero_le _
    · -- Only a call keeps the dispatcher waiting, and the clock does not run past its end.
      obtain ⟨ends, timer, -⟩ := Dispatcher.calling_of_waits rfl due.healthy.alive goesOn waits
      exact Nat.le_trans (Dispatcher.busyUntil_le_of_timer timer (inTime ends timer)) due.busy
  operate _ due := due.use service id
  crashInserting _ due := due.use service id
  drop due := due.use service id

theorem poisoned_run {service : ResetService} {moment : StickyMoment State}
    {moves : List (StickyMove State)} (whole : ∀ crash, .crashInserting crash ∉ moves)
    (poisoned : (moment.run service moves).1.sticky.standing = .poisoned) :
    moment.sticky.standing = .poisoned := by
  induction moves generalizing moment with
  | nil => exact poisoned
  | cons first rest inductionHypothesis =>
      have later := fun crash inRest => whole crash (List.mem_cons_of_mem _ inRest)
      have next := inductionHypothesis later poisoned
      have background : first.Background → moment.sticky.standing = .poisoned :=
        fun background => (standing_move_of_background service moment background).symm.trans next
      cases first with
      | operate operation =>
          obtain ⟨now, standing, dispatcher⟩ := moment
          cases standing with
          | poisoned => rfl
          | live | dropped => cases next
      | crashInserting crash => exact absurd List.mem_cons_self (whole crash)
      | drop => cases next
      | dispatch | pass | settle | advance => exact background trivial

/-- What is cached is what the users remember, unless an insertion has crashed. -/
theorem stored_of_whole {service : ResetService} {capacity : Nat} {runtime : Bool}
    {sticky : StickyCache State}
    (created : StickyCache.create capacity service.timeout runtime = .ok sticky)
    {moves : List (StickyMove State)} (whole : ∀ crash, .crashInserting crash ∉ moves)
    (present : ((start sticky).run service moves).1.sticky.standing ≠ .dropped)
    (key : ExecutionKey) :
    (((start sticky).run service moves).1.sticky.cached? key).map Entry.state =
      ((start sticky).history service moves).stored key := by
  cases standing : ((start sticky).run service moves).1.sticky.standing with
  | live cache =>
      rw [StickyCache.cached?_of_live standing, (remembers_of_create created standing).stored]
  | poisoned =>
      have begun := poisoned_run whole standing
      obtain ⟨-, rfl⟩ := StickyCache.eq_of_create created
      cases begun
  | dropped => exact absurd standing present

theorem disposed_drop (moment : StickyMoment State) (service : ResetService) :
    (moment.move service .drop).sight.disposed =
      moment.sticky.entries.map fun entry => (entry.state, none) := by
  rw [move, sight_operated]
  obtain ⟨now, standing, dispatcher⟩ := moment
  cases standing with
  | live cache =>
      simp [StickyOutcome.sight, StickyCache.drop, StickyCache.entries, CacheEffect.disposal?,
        Function.comp_def]
  | poisoned | dropped => rfl

theorem windingDown_drop {service : ResetService} {moment : StickyMoment State}
    (healthy : moment.sticky.Healthy) (inTime : InTime service moment) :
    WindingDown service (moment.sticky.dispatcher.remaining service)
      (moment.move service .drop).after [] where
  dropped := rfl
  healthy := healthy.leave nofun fun _ => rfl
  inTime := inTime
  account := rfl

theorem due_drop {service : ResetService} {moment : StickyMoment State}
    (healthy : moment.sticky.Healthy) (inTime : InTime service moment) :
    Due service
      (moment.now + .times moment.sticky.dispatcher.pending.length service.timeout.roundUp)
      (moment.move service .drop).after where
  dropped := rfl
  healthy := healthy.leave nofun fun _ => rfl
  busy := Dispatcher.busyUntil_le inTime

omit [DecidableEq State] in
/-- A dispatcher reports its end once, when all that was left is done. -/
theorem FollowsScript.stopReports_eq {service : ResetService} {script work : List DispatchStep}
    {moment : StickyMoment State} {past trace : StickyTrace State}
    (follows : FollowsScript service script moment trace) (split : script = work ++ [.stopped])
    (endless : .stopped ∉ work) (before : .stopped ∉ stepsIn past) (timeout : Duration) :
    stopReports timeout (past ++ trace) =
      if stepsIn trace = script then [.say .debug "eviction dispatcher stopped" []] else [] := by
  have none : ∀ steps : List DispatchStep, .stopped ∉ steps →
      steps.filter (fun step => decide (step = .stopped)) = [] := by
    intro steps absent
    apply List.filter_eq_nil_iff.mpr
    intro step member last
    exact absent (of_decide_eq_true last ▸ member)
  rw [DecisionWorker.stopReports_eq, stepsIn_append, List.filter_append, none _ before,
    List.nil_append]
  split
  next done =>
    rw [done, split, List.filter_append, none work endless]
    rfl
  next goesOn =>
    have isPrefix := follows.steps
    rw [split] at isPrefix goesOn
    rcases List.prefix_concat_iff.mp isPrefix with same | inWork
    · exact absurd same goesOn
    · rw [none _ fun last => endless (inWork.subset last)]
      rfl

/-- The drop of a cache disposes what is within reach, in the order of the last touches, and queues
nothing. From then on the dispatcher does what is left to do: it finishes the notice in flight,
calls about each notice that was queued, whether or not its key was cached again, and stops. If
nobody keeps it from working, that takes it one timeout for each notice at most. -/
theorem drop_is_followed_through {service : ResetService} (calm : service.NeverCrashes)
    {capacity : Nat} {runtime : Bool} {sticky : StickyCache State}
    (created : StickyCache.create capacity service.timeout runtime = .ok sticky)
    {moves : List (StickyMove State)}
    (present : ((start sticky).run service moves).1.sticky.standing ≠ .dropped) :
    let reached := (start sticky).run service moves
    let history := (start sticky).history service moves
    let dispatcher := reached.1.sticky.dispatcher
    let drop := reached.1.move service .drop
    let script := dispatcher.remaining service
    (reached.1.sticky.ByRecency history ∧
      drop.sight.disposed = reached.1.sticky.entries.map (fun entry => (entry.state, none)) ∧
      ((∀ crash, .crashInserting crash ∉ moves) →
        ∀ key, (reached.1.sticky.cached? key).map Entry.state = history.stored key) ∧
      (reached.1.sticky.standing = .poisoned → drop.sight.disposed = []) ∧
      queuedIn drop.trace = []) ∧
    (script = (dispatcher.outstanding service reached.1.now).map Prod.snd ++
        service.errands dispatcher.committed dispatcher.queue ∧
      script.filterMap DispatchStep.called? = dispatcher.uncalled ∧
      ∀ eviction, .skipped eviction ∉ script) ∧
    ∀ later,
      let wound := drop.after.run service later
      FollowsScript service script wound.1 wound.2 ∧
      stopReports service.timeout (reached.2 ++ drop.trace ++ wound.2) =
        (if stepsIn wound.2 = script then [.say .debug "eviction dispatcher stopped" []]
          else []) ∧
      (drop.after.Prompt service later →
        reached.1.now + .times dispatcher.pending.length service.timeout.roundUp ≤ wound.1.now →
        wound.1.sticky.dispatch service wound.1.now = none → stepsIn wound.2 = script) := by
  intro reached history dispatcher drop script
  have healthy : reached.1.sticky.Healthy :=
    run_healthy calm (StickyCache.healthy_of_create created) moves
  have running : dispatcher.running = true := healthy.running present
  have inTime : InTime service reached.1 :=
    (kept_inTime service).run (inTime_of_create created) moves
  have disposed : drop.sight.disposed = _ := disposed_drop reached.1 service
  refine ⟨⟨byRecency_run created moves, disposed, ?_, ?_, ?_⟩,
    ⟨Dispatcher.remaining_eq running _, ?_, ?_⟩, ?_⟩
  · exact fun whole => stored_of_whole created whole present
  · intro poisoned
    rw [disposed, StickyCache.entries, poisoned]
    rfl
  · simp only [drop, move, operated, queuedIn_effects, StickyCache.queued_drop]
  · exact Dispatcher.called_remaining running
  · exact Dispatcher.skipped_not_mem_remaining service dispatcher
  · intro later wound
    have winding := windingDown_drop healthy inTime
    have follows : FollowsScript service script wound.1 wound.2 :=
      ((kept_windingDown calm script).run winding later).followsScript
    refine ⟨follows, ?_, ?_⟩
    · obtain ⟨work, split, endless⟩ := Dispatcher.remaining_eq_concat running
      apply follows.stopReports_eq split endless
      intro last
      rw [stepsIn_append, stepsIn_of_use service reached.1 id, List.append_nil] at last
      exact present (healthy.stops (stopped_of_last last))
    · intro prompt enough waits
      have due := (kept_due calm _).run (due_drop healthy inTime) prompt
      by_contra goesOn
      obtain ⟨ends, timer, later, -⟩ := follows.busy (mt follows.stopped_iff.mp goesOn) waits
      have bound := Nat.le_trans (Dispatcher.timer_le_busyUntil timer) due.busy
      exact absurd (Nat.le_trans bound enough) (Nat.not_le_of_lt later)

/-- One call is in progress, the next one never ends by itself, and the last one fails. The first
of the two notices in the queue would have been skipped if the cache had not been dropped. -/
theorem drop_is_followed_through_by_uneven_service :
    let first : ExecutionKey := ⟨"first", "run", by decide, by decide⟩
    let second : ExecutionKey := ⟨"second", "run", by decide, by decide⟩
    let sticky : StickyCache Nat := ⟨.live (.empty 1), .start⟩
    let moves : List (StickyMove Nat) :=
      [.operate (.put first 1 "tasks"), .operate (.put second 2 "tasks"), .settle,
        .operate (.put first 3 "tasks"), .operate (.put second 4 "tasks")]
    let reached := ((start sticky).run unevenService moves).1
    let drop := reached.move unevenService .drop
    unevenService.NeverCrashes ∧ StickyCache.create 1 unevenService.timeout true = .ok sticky ∧
      reached.sticky.standing ≠ .dropped ∧
      reached.sticky.dispatcher.queue = [⟨second, "tasks", 2⟩, ⟨first, "tasks", 3⟩] ∧
      reached.sticky.stale ⟨second, "tasks", 2⟩ = true ∧ drop.sight.disposed = [(4, none)] ∧
      stepsIn (drop.after.run unevenService [.advance (.ofMilliseconds 40)]).2 =
        [.ended ⟨first, "tasks", 1⟩ (.answered .success),
          .checked ⟨second, "tasks", 2⟩, .called ⟨second, "tasks", 2⟩,
          .ended ⟨second, "tasks", 2⟩ .timedOut,
          .checked ⟨first, "tasks", 3⟩, .called ⟨first, "tasks", 3⟩,
          .ended ⟨first, "tasks", 3⟩ (.answered (.failure (.reported true "away"))), .stopped] := by
  intro first second sticky moves reached drop
  have calm : unevenService.NeverCrashes := by
    rintro (_ | _ | number)
    · decide
    · decide
    · exact nofun
  have created : StickyCache.create 1 unevenService.timeout true = .ok sticky := rfl
  have present : reached.sticky.standing ≠ .dropped := by decide +kernel
  obtain ⟨⟨-, disposed, -⟩, -, winds⟩ := drop_is_followed_through calm created present
  have prompt : drop.after.Prompt unevenService [.advance (.ofMilliseconds 40)] :=
    prompt_of_no_pass unevenService (by simp) drop.after
  have done := (winds [.advance (.ofMilliseconds 40)]).2.2 prompt (by decide +kernel)
    (by decide +kernel)
  refine ⟨calm, created, present, by decide +kernel, by decide +kernel, ?_, ?_⟩
  · exact disposed.trans (by decide +kernel)
  · exact done.trans (by decide +kernel)

/-- The state under the first key was put and never left, but the cache is unusable, and so its
drop lets the state go without disposing it. -/
theorem nothing_disposed_of_poisoned :
    let first : ExecutionKey := ⟨"first", "run", by decide, by decide⟩
    let silent : ResetService := ⟨.ofSeconds 10, fun _ => ⟨none, .success⟩⟩
    let sticky : StickyCache Nat := ⟨.live (.empty 2), .start⟩
    let moves : List (StickyMove Nat) :=
      [.operate (.put first 1 "tasks"), .crashInserting ⟨"task list conversion"⟩]
    let reached := ((start sticky).run silent moves).1
    silent.NeverCrashes ∧ StickyCache.create 2 silent.timeout true = .ok sticky ∧
      reached.sticky.standing ≠ .dropped ∧
      ((start sticky).history silent moves).stored first = some 1 ∧
      (reached.move silent .drop).sight.disposed = [] := by
  intro first silent sticky moves reached
  have calm : silent.NeverCrashes := fun _ => nofun
  exact ⟨calm, rfl, by decide +kernel, by decide +kernel, by decide +kernel⟩

end StickyMoment

end DecisionWorker
