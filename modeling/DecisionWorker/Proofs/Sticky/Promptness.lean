import DecisionWorker.Proofs.Sticky.Runs

set_option autoImplicit false

/-!
Runs in which nobody keeps the dispatcher from working.

In such a run the clock stands still while the dispatcher can move, and it never runs past the
end of a call. Every move but `pass` sees to that by itself: letting the clock advance stops it at
the end of each call on the way, because `advance` allows for as many calls as there can be.
`KeptPromptly` lists what has to be shown of such runs, as `Kept` does for all runs.
-/

namespace DecisionWorker

namespace StickyMoment

variable {State : Type}

/-- The clock may move on by some time without the dispatcher. -/
structure Idle (service : ResetService) (moment : StickyMoment State) (time : Duration) :
    Prop where
  waits : moment.sticky.dispatch service moment.now = none
  inTime : ∀ ends, moment.sticky.dispatcher.timer? = some ends → moment.now + time ≤ ends

/-- A move that does not keep the dispatcher from working. -/
def Allows (service : ResetService) (moment : StickyMoment State) : StickyMove State → Prop
  | .pass time => moment.Idle service time
  | _ => True

variable [DecidableEq State]

def Prompt (service : ResetService) (moment : StickyMoment State) :
    List (StickyMove State) → Prop
  | [] => True
  | first :: rest =>
      moment.Allows service first ∧ Prompt service (moment.move service first).after rest

/-- Only a clock that moves on its own can keep the dispatcher from working. -/
theorem prompt_of_no_pass (service : ResetService) {moves : List (StickyMove State)}
    (stops : ∀ time, .pass time ∉ moves) (moment : StickyMoment State) :
    moment.Prompt service moves := by
  induction moves generalizing moment with
  | nil => trivial
  | cons first rest inductionHypothesis =>
      constructor
      · cases first with
        | pass time => exact absurd List.mem_cons_self (stops time)
        | _ => trivial
      · apply inductionHypothesis
        intro time membership
        exact stops time (List.mem_cons_of_mem first membership)

/-- Every single move keeps a property of a moment and the trace up to it, as long as the clock
only moves on its own while the dispatcher waits. -/
structure KeptPromptly (service : ResetService)
    (holds : StickyMoment State → StickyTrace State → Prop) : Prop where
  dispatch : ∀ {now standing dispatcher next happened trace},
    holds ⟨now, standing, dispatcher⟩ trace →
    Dispatcher.Moves service standing.view now dispatcher next happened →
    holds ⟨now, standing, next⟩ (trace ++ [(now, .dispatched happened)])
  pass : ∀ {now later standing dispatcher trace},
    holds ⟨now, standing, dispatcher⟩ trace → now ≤ later →
    dispatcher.step service standing.view now = none →
    (∀ ends, dispatcher.timer? = some ends → later ≤ ends) →
    holds ⟨later, standing, dispatcher⟩ trace
  operate : ∀ {moment trace} operation, holds moment trace →
    let moved := moment.move service (.operate operation)
    holds moved.after (trace ++ moved.trace)
  crashInserting : ∀ {moment trace} crash, holds moment trace →
    let moved := moment.move service (.crashInserting crash)
    holds moved.after (trace ++ moved.trace)
  drop : ∀ {moment trace}, holds moment trace →
    let moved := moment.move service .drop
    holds moved.after (trace ++ moved.trace)

variable {service : ResetService} {holds : StickyMoment State → StickyTrace State → Prop}

/-- In no time at all, the dispatcher keeps the property whatever the clock does later. -/
theorem KeptPromptly.standstill (kept : KeptPromptly service holds) (now : Instant) :
    KeptInBackground service fun moment trace =>
      now ≤ moment.now ∧ (moment.now = now → holds moment trace) where
  dispatch := by
    rintro moment standing dispatcher next happened trace ⟨reached, before⟩ moved
    exact ⟨reached, fun same => kept.dispatch (before same) moved⟩
  pass := by
    rintro moment later sticky trace ⟨reached, before⟩ passes
    refine ⟨Nat.le_trans reached passes, ?_⟩
    intro same
    simp only at same
    subst same
    obtain rfl : moment = later := Duration.le_antisymm passes reached
    exact before rfl

theorem KeptPromptly.settle (kept : KeptPromptly service holds) {now : Instant}
    {standing : Standing State} {dispatcher : Dispatcher} {trace : StickyTrace State}
    (before : holds ⟨now, standing, dispatcher⟩ trace) :
    let settled := dispatcher.settle service standing.view now
    holds ⟨now, standing, settled.1⟩ (trace ++ dispatchedTrace settled.2) :=
  ((kept.standstill now).settle ⟨Nat.le_refl _, fun _ => before⟩).2 rfl

/-- Once the dispatcher has settled, the clock may run up to the end of the call in progress. -/
theorem KeptPromptly.rest (kept : KeptPromptly service holds) {now later : Instant}
    {standing : Standing State} {dispatcher : Dispatcher} {trace : StickyTrace State}
    (before : holds ⟨now, standing, dispatcher⟩ trace) (passes : now ≤ later) :
    let settled := dispatcher.settle service standing.view now
    (∀ ends, settled.1.timer? = some ends → later ≤ ends) →
    holds ⟨later, standing, settled.1⟩ (trace ++ dispatchedTrace settled.2) :=
  kept.pass (kept.settle before) passes (dispatcher.step_settle service standing.view now)

theorem KeptPromptly.advanceWithin (kept : KeptPromptly service holds)
    {standing : Standing State} {target : Instant} (timers : Nat) {now : Instant}
    {dispatcher : Dispatcher} {trace : StickyTrace State} (ahead : now ≤ target)
    (before : holds ⟨now, standing, dispatcher⟩ trace)
    (enough : (dispatcher.settle service standing.view now).1.pending.length ≤ timers) :
    let advanced :=
      Dispatcher.advanceWithin service standing.view target timers now dispatcher
    holds ⟨target, standing, advanced.1⟩ (trace ++ dispatchedTrace advanced.2) := by
  induction timers generalizing now dispatcher trace with
  | zero =>
      have idle : (dispatcher.settle service standing.view now).1.timer? = none :=
        Dispatcher.timer?_of_pending (List.length_eq_zero_iff.mp (Nat.le_zero.mp enough))
      exact kept.rest before ahead (by simp [idle])
  | succ timers inductionHypothesis =>
      simp only [Dispatcher.advanceWithin]
      cases timer : (dispatcher.settle service standing.view now).1.timer? with
      | none => exact kept.rest before ahead (by simp [timer])
      | some ends =>
          by_cases due : ends ≤ target
          · have waits := dispatcher.step_settle service standing.view now
            have later := Nat.le_of_lt (Dispatcher.lt_timer_of_step_eq_none waits timer)
            have moved := kept.rest before later (by
              intro same running
              rw [← Option.some.inj (timer.symm.trans running)]
              exact Nat.le_refl _)
            -- The call that is waited for is one notice less.
            have fewer : (Dispatcher.settle _ service standing.view ends).1.pending.length < _ :=
              Dispatcher.length_pending_settle_lt timer (Nat.le_refl _)
            have rest := inductionHypothesis due moved
              (Nat.le_of_lt_succ (Nat.lt_of_lt_of_le fewer enough))
            simp only [due, if_true, dispatchedTrace, List.map_append]
            rw [← List.append_assoc]
            exact rest
          · simp only [due, if_false]
            apply kept.rest before ahead
            intro same running
            rw [← Option.some.inj (timer.symm.trans running)]
            exact Nat.le_of_not_le due

theorem KeptPromptly.advance (kept : KeptPromptly service holds) {now target : Instant}
    {standing : Standing State} {dispatcher : Dispatcher} {trace : StickyTrace State}
    (ahead : now ≤ target) (before : holds ⟨now, standing, dispatcher⟩ trace) :
    let advanced := dispatcher.advance service standing.view now target
    holds ⟨target, standing, advanced.1⟩ (trace ++ dispatchedTrace advanced.2) := by
  apply kept.advanceWithin _ ahead before
  calc (dispatcher.settle service standing.view now).1.pending.length
      ≤ dispatcher.pending.length := Dispatcher.length_pending_settleWithin _ _ _ _ _
    _ ≤ dispatcher.queue.length + 1 := dispatcher.length_pending_le

theorem KeptPromptly.move (kept : KeptPromptly service holds) {moment : StickyMoment State}
    {trace : StickyTrace State} (before : holds moment trace) {move : StickyMove State}
    (allowed : moment.Allows service move) :
    holds (moment.move service move).after (trace ++ (moment.move service move).trace) := by
  obtain ⟨now, standing, dispatcher⟩ := moment
  cases move with
  | operate operation => exact kept.operate operation before
  | crashInserting crash => exact kept.crashInserting crash before
  | drop => exact kept.drop before
  | dispatch =>
      rcases dispatch_cases service now standing dispatcher with
        ⟨-, same⟩ | ⟨next, happened, moved, result⟩
      · rw [same, List.append_nil]
        exact before
      · rw [result]
        exact kept.dispatch before moved
  | pass time =>
      have waits : dispatcher.step service standing.view now = none := by
        have none := allowed.waits
        rw [StickyCache.dispatch_eq, Option.map_eq_none_iff] at none
        exact none
      have later : holds ⟨now + time, standing, dispatcher⟩ trace :=
        kept.pass before (Nat.le_add_right _ _) waits allowed.inTime
      simpa [StickyMoment.move] using later
  | settle => exact kept.settle before
  | advance time => exact kept.advance (Nat.le_add_right _ _) before

theorem KeptPromptly.extend (kept : KeptPromptly service holds) {moment : StickyMoment State}
    {trace : StickyTrace State} (before : holds moment trace) {moves : List (StickyMove State)}
    (prompt : moment.Prompt service moves) :
    holds (moment.run service moves).1 (trace ++ (moment.run service moves).2) := by
  induction moves generalizing moment trace with
  | nil => simpa [StickyMoment.run] using before
  | cons first rest inductionHypothesis =>
      have next := inductionHypothesis (kept.move before prompt.1) prompt.2
      rw [List.append_assoc] at next
      exact next

theorem KeptPromptly.run (kept : KeptPromptly service holds) {moment : StickyMoment State}
    (before : holds moment []) {moves : List (StickyMove State)}
    (prompt : moment.Prompt service moves) :
    holds (moment.run service moves).1 (moment.run service moves).2 :=
  kept.extend before prompt

end StickyMoment

end DecisionWorker
