import DecisionWorker.Proofs.Eviction.Moves
import DecisionWorker.Sticky.Move

set_option autoImplicit false

/-!
Whole runs of a cache with its dispatcher and the clock.

Letting the dispatcher settle or the clock advance is a sequence of single moves of the
dispatcher and of the clock, so a property of runs has to be proved for single moves only:
`Kept` lists what has to be shown, and `Kept.extend` is the induction.
-/

namespace DecisionWorker

variable {State : Type}

abbrev StickyTrace (State : Type) := List (Instant × StickyEvent State)

/-- What the dispatcher sees of a cache depends on its standing alone. -/
def Standing.view (standing : Standing State) : CacheView :=
  (StickyCache.mk standing .start).view

theorem StickyCache.dispatch_eq (service : ResetService) (now : Instant)
    (standing : Standing State) (dispatcher : Dispatcher) :
    (StickyCache.mk standing dispatcher).dispatch service now =
      (dispatcher.step service standing.view now).map fun moved =>
        (⟨standing, moved.1⟩, moved.2) := rfl

/-- A move of the dispatcher or of the clock. -/
def StickyMove.Background : StickyMove State → Prop
  | .operate _ => False
  | .crashInserting _ => False
  | .drop => False
  | .dispatch | .pass _ | .settle | .advance _ => True

namespace StickyMoment

structure KeptInBackground (service : ResetService)
    (holds : StickyMoment State → StickyTrace State → Prop) : Prop where
  dispatch : ∀ {now standing dispatcher next happened trace},
    holds ⟨now, standing, dispatcher⟩ trace →
    Dispatcher.Moves service standing.view now dispatcher next happened →
    holds ⟨now, standing, next⟩ (trace ++ [(now, .dispatched happened)])
  pass : ∀ {now later sticky trace},
    holds ⟨now, sticky⟩ trace → now ≤ later → holds ⟨later, sticky⟩ trace

section Background

variable {service : ResetService} {holds : StickyMoment State → StickyTrace State → Prop}

def dispatchedTrace (steps : List (Instant × DispatchStep)) : StickyTrace State :=
  steps.map fun step => (step.1, .dispatched step.2)

theorem KeptInBackground.settleWithin (kept : KeptInBackground service holds) {now : Instant}
    {standing : Standing State} (moves : Nat) {dispatcher : Dispatcher}
    {trace : StickyTrace State} (before : holds ⟨now, standing, dispatcher⟩ trace) :
    let settled := Dispatcher.settleWithin service standing.view now moves dispatcher
    holds ⟨now, standing, settled.1⟩ (trace ++ dispatchedTrace settled.2) := by
  induction moves generalizing dispatcher trace with
  | zero => simpa [Dispatcher.settleWithin, dispatchedTrace] using before
  | succ moves inductionHypothesis =>
      cases step : dispatcher.step service standing.view now with
      | none => simpa [Dispatcher.settleWithin, step, dispatchedTrace] using before
      | some moved =>
          have first := kept.dispatch before (Dispatcher.moves_of_step step)
          have rest := inductionHypothesis first
          simpa [Dispatcher.settleWithin, step, dispatchedTrace] using rest

theorem KeptInBackground.settle (kept : KeptInBackground service holds) {now : Instant}
    {standing : Standing State} {dispatcher : Dispatcher} {trace : StickyTrace State}
    (before : holds ⟨now, standing, dispatcher⟩ trace) :
    let settled := dispatcher.settle service standing.view now
    holds ⟨now, standing, settled.1⟩ (trace ++ dispatchedTrace settled.2) :=
  kept.settleWithin _ before

theorem KeptInBackground.advanceWithin (kept : KeptInBackground service holds)
    {standing : Standing State} {target : Instant} (timers : Nat) {now : Instant}
    {dispatcher : Dispatcher} {trace : StickyTrace State} (ahead : now ≤ target)
    (before : holds ⟨now, standing, dispatcher⟩ trace) :
    let advanced :=
      Dispatcher.advanceWithin service standing.view target timers now dispatcher
    holds ⟨target, standing, advanced.1⟩ (trace ++ dispatchedTrace advanced.2) := by
  induction timers generalizing now dispatcher trace with
  | zero => exact kept.pass (kept.settle before) ahead
  | succ timers inductionHypothesis =>
      have settled := kept.settle before
      have waits := dispatcher.step_settle service standing.view now
      simp only [Dispatcher.advanceWithin]
      cases timer : (dispatcher.settle service standing.view now).1.timer? with
      | none => exact kept.pass settled ahead
      | some ends =>
          have later := Dispatcher.lt_timer_of_step_eq_none waits timer
          by_cases due : ends ≤ target
          · have moved := kept.pass settled (Nat.le_of_lt later)
            have rest := inductionHypothesis due moved
            simp only [due, if_true, dispatchedTrace, List.map_append]
            rw [← List.append_assoc]
            exact rest
          · simp only [due, if_false]
            exact kept.pass settled ahead

theorem keptInBackground_standing (service : ResetService) (standing : Standing State) :
    KeptInBackground service fun (moment : StickyMoment State) _ =>
      moment.sticky.standing = standing where
  dispatch same _ := same
  pass same _ := same

theorem keptInBackground_dispatched (service : ResetService) :
    KeptInBackground service fun (_ : StickyMoment State) trace =>
      ∀ event ∈ trace, ∃ step, event.2 = .dispatched step where
  dispatch {now _ _ _ happened _} before _ := by
    intro event member
    rcases List.mem_append.mp member with inTrace | last
    · exact before event inTrace
    · rw [List.mem_singleton.mp last]
      exact ⟨happened, rfl⟩
  pass before _ := before

end Background

variable [DecidableEq State]

theorem dispatch_cases (service : ResetService) (now : Instant) (standing : Standing State)
    (dispatcher : Dispatcher) :
    let moment : StickyMoment State := ⟨now, standing, dispatcher⟩
    (dispatcher.step service standing.view now = none ∧
      moment.move service .dispatch = ⟨moment, .done, []⟩) ∨
    ∃ next happened, Dispatcher.Moves service standing.view now dispatcher next happened ∧
      moment.move service .dispatch =
        ⟨⟨now, standing, next⟩, .done, [(now, .dispatched happened)]⟩ := by
  intro moment
  have moves := StickyCache.dispatch_eq service now standing dispatcher
  cases step : dispatcher.step service standing.view now with
  | none =>
      rw [step, Option.map_none] at moves
      exact .inl ⟨rfl, by simp only [moment, move, moves]⟩
  | some moved =>
      rw [step, Option.map_some] at moves
      refine .inr ⟨moved.1, moved.2, Dispatcher.moves_of_step step, ?_⟩
      simp only [moment, move, moves]

theorem KeptInBackground.move {service : ResetService}
    {holds : StickyMoment State → StickyTrace State → Prop}
    (kept : KeptInBackground service holds) {moment : StickyMoment State}
    {trace : StickyTrace State} (before : holds moment trace) {move : StickyMove State}
    (background : move.Background) :
    holds (moment.move service move).after (trace ++ (moment.move service move).trace) := by
  obtain ⟨now, standing, dispatcher⟩ := moment
  cases move with
  | operate operation => exact background.elim
  | crashInserting crash => exact background.elim
  | drop => exact background.elim
  | dispatch =>
      rcases dispatch_cases service now standing dispatcher with
        ⟨-, same⟩ | ⟨next, happened, moved, result⟩
      · rw [same, List.append_nil]
        exact before
      · rw [result]
        exact kept.dispatch before moved
  | pass time =>
      have later : holds ⟨now + time, standing, dispatcher⟩ trace :=
        kept.pass before (Nat.le_add_right _ _)
      simpa [StickyMoment.move] using later
  | settle => exact kept.settle before
  | advance time => exact kept.advanceWithin _ (Nat.le_add_right _ _) before

theorem standing_move_of_background (service : ResetService) (moment : StickyMoment State)
    {move : StickyMove State} (background : move.Background) :
    (moment.move service move).after.sticky.standing = moment.sticky.standing :=
  @KeptInBackground.move _ _ _ _ (keptInBackground_standing service _) moment [] rfl move background

/-- A cache that is in use after a move was in use before. Only operations change it. -/
theorem live_cases {service : ResetService} {moment : StickyMoment State}
    {move : StickyMove State} {cache : Cache State}
    (live : (moment.move service move).after.sticky.standing = .live cache) :
    ∃ before, moment.sticky.standing = .live before ∧
      ((∃ operation, move = .operate operation ∧ cache = (before.perform operation).cache) ∨
        move.Background ∧ cache = before) := by
  have background : move.Background → ∃ before, moment.sticky.standing = .live before ∧
      ((∃ operation, move = .operate operation ∧ cache = (before.perform operation).cache) ∨
        move.Background ∧ cache = before) := by
    intro background
    rw [standing_move_of_background service moment background] at live
    exact ⟨cache, live, .inr ⟨background, rfl⟩⟩
  obtain ⟨now, standing, dispatcher⟩ := moment
  cases move with
  | operate operation =>
      cases standing with
      | live before =>
          cases live
          exact ⟨before, rfl, .inl ⟨operation, rfl, rfl⟩⟩
      | poisoned => cases operation <;> cases live
      | dropped => cases live
  | crashInserting crash => cases standing <;> cases live
  | drop => cases live
  | dispatch | pass | settle | advance => exact background trivial

theorem dispatched_of_background (service : ResetService) (moment : StickyMoment State)
    {move : StickyMove State} (background : move.Background) :
    ∀ event ∈ (moment.move service move).trace, ∃ step, event.2 = .dispatched step :=
  (keptInBackground_dispatched service).move (List.forall_mem_nil _) background

/-- What no step of the dispatcher shows is not in a trace in which nobody uses the cache. -/
theorem filterMap_of_background {Found : Type} {read : Instant × StickyEvent State → Option Found}
    (silent : ∀ now step, read (now, .dispatched step) = none) (service : ResetService)
    (moment : StickyMoment State) {move : StickyMove State} (background : move.Background) :
    (moment.move service move).trace.filterMap read = [] := by
  apply List.filterMap_eq_nil_iff.mpr
  rintro ⟨now, event⟩ member
  obtain ⟨step, happened⟩ := dispatched_of_background service moment background _ member
  simp only at happened
  rw [happened]
  exact silent now step

/-- The dispatcher does nothing while the cache is used. -/
theorem effects_of_use (service : ResetService) (moment : StickyMoment State)
    {move : StickyMove State} (used : ¬ move.Background) :
    ∀ event ∈ (moment.move service move).trace, ∃ effect, event.2 = .effect effect := by
  cases move with
  | operate | crashInserting | drop =>
      intro event member
      obtain ⟨effect, -, rfl⟩ := List.mem_map.mp member
      exact ⟨effect, rfl⟩
  | dispatch | pass | settle | advance => exact absurd trivial used

theorem move_of_dropped (service : ResetService) {moment : StickyMoment State}
    (dropped : moment.sticky.standing = .dropped) {move : StickyMove State}
    (used : ¬ move.Background) :
    (moment.move service move).after = moment ∧ (moment.move service move).trace = [] := by
  obtain ⟨now, standing, dispatcher⟩ := moment
  cases dropped
  cases move with
  | operate | crashInserting | drop => exact ⟨rfl, rfl⟩
  | dispatch | pass | settle | advance => exact absurd trivial used

theorem run_append (service : ResetService) (moment : StickyMoment State)
    (earlier later : List (StickyMove State)) :
    moment.run service (earlier ++ later) =
      (((moment.run service earlier).1.run service later).1,
        (moment.run service earlier).2 ++
          ((moment.run service earlier).1.run service later).2) := by
  induction earlier generalizing moment with
  | nil => simp [run]
  | cons first rest inductionHypothesis => simp [run, inductionHypothesis]

/-- Every single move keeps a property of a moment and the trace up to it. -/
structure Kept (service : ResetService)
    (holds : StickyMoment State → StickyTrace State → Prop) : Prop
    extends KeptInBackground service holds where
  operate : ∀ {moment trace} operation, holds moment trace →
    let moved := moment.move service (.operate operation)
    holds moved.after (trace ++ moved.trace)
  crashInserting : ∀ {moment trace} crash, holds moment trace →
    let moved := moment.move service (.crashInserting crash)
    holds moved.after (trace ++ moved.trace)
  drop : ∀ {moment trace}, holds moment trace →
    let moved := moment.move service .drop
    holds moved.after (trace ++ moved.trace)

variable {service : ResetService} {holds : StickyMoment State → StickyTrace State → Prop}

theorem Kept.of_uses (background : KeptInBackground service holds)
    (use : ∀ {moment trace move}, ¬ StickyMove.Background move → holds moment trace →
      let moved := moment.move service move
      holds moved.after (trace ++ moved.trace)) : Kept service holds where
  toKeptInBackground := background
  operate _ before := use id before
  crashInserting _ before := use id before
  drop before := use id before

theorem Kept.move (kept : Kept service holds) {moment : StickyMoment State}
    {trace : StickyTrace State} (before : holds moment trace) (move : StickyMove State) :
    holds (moment.move service move).after (trace ++ (moment.move service move).trace) := by
  cases move with
  | operate operation => exact kept.operate operation before
  | crashInserting crash => exact kept.crashInserting crash before
  | drop => exact kept.drop before
  | dispatch | pass | settle | advance => exact kept.toKeptInBackground.move before trivial

theorem Kept.extend (kept : Kept service holds) {moment : StickyMoment State}
    {trace : StickyTrace State} (before : holds moment trace) (moves : List (StickyMove State)) :
    holds (moment.run service moves).1 (trace ++ (moment.run service moves).2) := by
  induction moves generalizing moment trace with
  | nil => simpa [StickyMoment.run] using before
  | cons first rest inductionHypothesis =>
      have next := inductionHypothesis (kept.move before first)
      rw [List.append_assoc] at next
      exact next

theorem Kept.run (kept : Kept service holds) {moment : StickyMoment State}
    (before : holds moment []) (moves : List (StickyMove State)) :
    holds (moment.run service moves).1 (moment.run service moves).2 :=
  kept.extend before moves

end StickyMoment

end DecisionWorker
