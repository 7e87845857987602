import DecisionWorker.Proofs.Poller.Roster

set_option autoImplicit false

/-!
How long a loop stays where it is.

Nobody but a loop itself moves it: `first_move` says that a loop stays in its phase until its
own next move, and that in a prompt run the clock waits for a loop that can move and stops at
the moment for which a loop waits.
-/

namespace DecisionWorker

theorem LoopPhase.able_mono {phase : LoopPhase} {now later : Instant} {cancelled still : Bool}
    (ahead : now ≤ later) (kept : cancelled = true → still = true)
    (able : phase.able now cancelled = true) : phase.able later still = true := by
  have wait : ∀ {wake : Instant}, wake ≤ now → wake ≤ later :=
    fun early => Nat.le_trans early ahead
  cases phase with
  | throttle | poll | received => rfl
  | holding | calling | resting =>
      simp only [LoopPhase.able, Bool.or_eq_true, decide_eq_true_eq] at able ⊢
      exact able.imp kept wait
  | handling =>
      simp only [LoopPhase.able, decide_eq_true_eq] at able ⊢
      exact wait able
  | ended => cases able

namespace PollerState

section Moves

variable {poller : Poller} {current : PollerState} {move : CompanyMove} {outcome : Outcome}

theorem Happens.now_le (happens : Happens poller current move outcome) :
    current.now ≤ outcome.1.now := by
  cases happens with
  | loop stands step =>
      obtain ⟨next, moves⟩ := step.movesItself
      exact Nat.le_of_eq (congrArg Duration.nanoseconds moves.now.symm)
  | passes => exact Nat.le_add_right _ _
  | begins | joins | finishes | dispatches | waits | cancels | visits => exact Nat.le_refl _

theorem Happens.cancelled (happens : Happens poller current move outcome)
    (before : current.cancelled = true) : outcome.1.cancelled = true := by
  cases happens with
  | loop stands step =>
      obtain ⟨next, moves⟩ := step.movesItself
      exact moves.cancelled.trans before
  | cancels => rfl
  | begins | joins | finishes | dispatches | waits | passes | visits => exact before

theorem Happens.stays (rostered : Rostered poller current) {loop : Nat} {phase : LoopPhase}
    (happens : Happens poller current move outcome) (stands : current.loops[loop]? = some phase) :
    outcome.1.loops[loop]? = some phase ∨
      (move = .own (.task (.loop loop)) ∧ LoopStep poller current loop phase outcome) := by
  cases happens with
  | @loop index other _ here step =>
      by_cases same : index = loop
      · subst same
        cases here.symm.trans stands
        exact .inr ⟨rfl, step⟩
      · obtain ⟨next, moves⟩ := step.movesItself
        rw [moves.loops, List.getElem?_set_ne same]
        exact .inl stands
  | begins idle =>
      rw [(rostered.idle idle).1] at stands
      cases stands
  | joins | finishes | dispatches | waits | cancels | passes | visits => exact .inl stands

theorem cancelled_after (moves : List CompanyMove) {current : PollerState}
    (before : current.cancelled = true) : (current.after poller moves).cancelled = true :=
  preserved (fun cancelled happens => happens.cancelled cancelled) before moves

theorem not_able_of_ready_eq_nil (quiet : current.ready poller = []) {loop : Nat}
    {phase : LoopPhase} (stands : current.loops[loop]? = some phase) :
    phase.able current.now current.cancelled = false := by
  rw [Bool.eq_false_iff]
  intro able
  have nobody := (List.append_eq_nil_iff.mp quiet).2
  rw [List.map_eq_nil_iff, List.filter_eq_nil_iff] at nobody
  exact nobody (phase, loop) (List.mk_mem_zipIdx_iff_getElem?.mpr stands) able

theorem mem_timers {loop : Nat} {phase : LoopPhase} {wake : Instant}
    (stands : current.loops[loop]? = some phase) (timer : timerOf phase = some wake) :
    wake ∈ current.timers :=
  List.mem_append_right _ <|
    List.mem_filterMap.mpr ⟨phase, List.mem_of_getElem? stands, timer⟩

end Moves

structure Remains (poller : Poller) (current : PollerState) (loop : Nat) (phase : LoopPhase)
    (moves : List CompanyMove) : Prop where
  stands : (current.after poller moves).loops[loop]? = some phase
  still : Prompt poller current moves → phase.able current.now current.cancelled = true →
    (current.after poller moves).now = current.now
  inTime : Prompt poller current moves → ∀ wake, timerOf phase = some wake →
    current.now ≤ wake → (current.after poller moves).now ≤ wake

section Remains

variable {poller : Poller} {current : PollerState} {loop : Nat} {phase : LoopPhase}
  {move : CompanyMove}

/-- In a prompt run the clock does not leave behind a loop that can move. -/
theorem Happens.now_eq {outcome : Outcome} (happens : Happens poller current move outcome)
    (inTime : InTime poller current move) (stands : current.loops[loop]? = some phase)
    (able : phase.able current.now current.cancelled = true) :
    outcome.1.now = current.now := by
  cases happens with
  | loop _ step =>
      obtain ⟨next, moves⟩ := step.movesItself
      exact moves.now
  | passes =>
      rw [not_able_of_ready_eq_nil inTime.1 stands] at able
      cases able
  | begins | joins | finishes | dispatches | waits | cancels | visits => rfl

theorem Happens.now_le_wake {outcome : Outcome} (happens : Happens poller current move outcome)
    (inTime : InTime poller current move) (stands : current.loops[loop]? = some phase)
    {wake : Instant} (timer : timerOf phase = some wake) (ahead : current.now ≤ wake) :
    outcome.1.now ≤ wake := by
  cases happens with
  | loop _ step =>
      obtain ⟨next, moves⟩ := step.movesItself
      rw [moves.now]
      exact ahead
  | passes => exact inTime.2 wake (mem_timers stands timer)
  | begins | joins | finishes | dispatches | waits | cancels | visits => exact ahead

theorem Remains.cons {rest : List CompanyMove} (stands : current.loops[loop]? = some phase)
    (remains : Remains poller (current.proceed poller move).1 loop phase rest) :
    Remains poller current loop phase (move :: rest) where
  stands := remains.stands
  still prompt able := by
    have happens := happens_proceed poller current move
    have same := happens.now_eq prompt.1 stands able
    have later := LoopPhase.able_mono happens.now_le happens.cancelled able
    exact (remains.still prompt.2 later).trans same
  inTime prompt wake timer ahead := by
    have happens := happens_proceed poller current move
    exact remains.inTime prompt.2 wake timer (happens.now_le_wake prompt.1 stands timer ahead)

end Remains

end PollerState

end DecisionWorker
