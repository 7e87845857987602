import DecisionWorker.Poller.Log
import DecisionWorker.Proofs.Poller.CacheUse
import DecisionWorker.Proofs.Poller.Streaks

set_option autoImplicit false

/-!
Every task that a loop receives goes to the handler, once.

For each loop the tasks that its polls ended with are those that it has handed over, and one more
while it is on the way from the poll to the handler (`Balanced`). What the handler is given is what
the cache holds at that moment, and what it answers is all that changes the cache.
-/

namespace DecisionWorker

def Occurrence.polled? (loop : Nat) : Occurrence → Option DecisionTask
  | .polled other task => if other = loop then task else none
  | _ => none

def Occurrence.handled? (loop : Nat) : Occurrence → Option DecisionTask
  | .handled other task _ => if other = loop then some task else none
  | _ => none

def tasksPolled (loop : Nat) (past : Trace) : List DecisionTask :=
  past.filterMap fun happened => happened.2.polled? loop

def tasksHandled (loop : Nat) (past : Trace) : List DecisionTask :=
  past.filterMap fun happened => happened.2.handled? loop

/-- The task that is on the way from the poll to the handler. -/
def LoopPhase.received? : LoopPhase → Option DecisionTask
  | .received task => some task
  | _ => none

namespace PollerState

def pending (current : PollerState) (loop : Nat) : List DecisionTask :=
  (current.loops[loop]?.bind LoopPhase.received?).toList

/-- Every task of a poll has been handed over once, or is about to be. -/
def Balanced (current : PollerState) (past : Trace) : Prop :=
  ∀ loop, tasksPolled loop past = tasksHandled loop past ++ current.pending loop

section Account

variable {poller : Poller} {current : PollerState}

theorem tasksPolled_stamp (loop : Nat) (now : Instant) (happened : List Occurrence) :
    tasksPolled loop (stamp now happened) = happened.filterMap (Occurrence.polled? loop) := by
  simp only [tasksPolled, stamp, List.filterMap_map]
  rfl

theorem tasksHandled_stamp (loop : Nat) (now : Instant) (happened : List Occurrence) :
    tasksHandled loop (stamp now happened) = happened.filterMap (Occurrence.handled? loop) := by
  simp only [tasksHandled, stamp, List.filterMap_map]
  rfl

def Idle (loop : Nat) (happened : List Occurrence) : Prop :=
  ∀ occurrence ∈ happened, occurrence.polled? loop = none ∧ occurrence.handled? loop = none

theorem idle_perform (loop : Nat) (current : PollerState) (operation : CacheOperation StateName) :
    Idle loop (current.perform operation).2.2 := by
  intro occurrence member
  obtain ⟨_, rfl⟩ := mem_perform member
  exact ⟨rfl, rfl⟩

/-- What a move adds to the tasks of a loop: those polled, those handed over, and the one on the
way. -/
def Accounts (current : PollerState) (outcome : Outcome) (loop : Nat) : Prop :=
  current.pending loop ++ outcome.2.filterMap (Occurrence.polled? loop) =
    outcome.2.filterMap (Occurrence.handled? loop) ++ outcome.1.pending loop

theorem accounts_of_idle {outcome : Outcome} {loop : Nat} (idle : Idle loop outcome.2)
    (same : outcome.1.pending loop = current.pending loop) : Accounts current outcome loop := by
  have polled : outcome.2.filterMap (Occurrence.polled? loop) = [] :=
    List.filterMap_eq_nil_iff.mpr fun occurrence member => (idle occurrence member).1
  have handled : outcome.2.filterMap (Occurrence.handled? loop) = [] :=
    List.filterMap_eq_nil_iff.mpr fun occurrence member => (idle occurrence member).2
  rw [Accounts, polled, handled, same, List.append_nil, List.nil_append]

theorem pending_of_set {next : PollerState} {loop : Nat} {phase standing : LoopPhase}
    (stands : current.loops[loop]? = some phase)
    (moved : next.loops = current.loops.set loop standing) :
    next.pending loop = standing.received?.toList := by
  have inside : loop < current.loops.length := (List.getElem?_eq_some_iff.mp stands).1
  simp [pending, moved, inside]

theorem pending_of_set_ne {next : PollerState} {loop other : Nat} {standing : LoopPhase}
    (unlike : other ≠ loop) (moved : next.loops = current.loops.set other standing) :
    next.pending loop = current.pending loop := by
  simp [pending, moved, unlike]

theorem pending_of_stands {loop : Nat} {phase : LoopPhase}
    (stands : current.loops[loop]? = some phase) :
    current.pending loop = phase.received?.toList := by
  rw [pending, stands, Option.bind_some]

theorem accounts_of_step {outcome : Outcome} {index loop : Nat} {phase next : LoopPhase}
    (stands : current.loops[index]? = some phase)
    (moved : outcome.1.loops = current.loops.set index next) (idle : Idle loop outcome.2)
    (before : phase.received? = none) (after : next.received? = none) :
    Accounts current outcome loop := by
  refine accounts_of_idle idle ?_
  by_cases same : index = loop
  · subst same
    rw [pending_of_set stands moved, pending_of_stands stands, before, after]
  · exact pending_of_set_ne same moved

theorem LoopStep.accounts (alive : current.Alive) {index : Nat} {phase : LoopPhase}
    {outcome : Outcome} (stands : current.loops[index]? = some phase)
    (step : LoopStep poller current index phase outcome) {loop : Nat} :
    Accounts current outcome loop := by
  cases step with
  | release | hold | crashAsking | wake | call | callAgain | rest | fail | crashPolling
  | crashHandling =>
      exact accounts_of_step stands rfl
        (by simp [Idle, depart, PollerState.call, Occurrence.polled?, Occurrence.handled?]) rfl rfl
  | @abandon phase waits =>
      have idle : phase.received? = none := by
        rcases waits with interruptible | rfl
        · cases phase <;> first | rfl | exact interruptible.elim
        · rfl
      exact accounts_of_step stands rfl
        (by simp [Idle, depart, Occurrence.polled?, Occurrence.handled?]) idle rfl
  | crashLooking poisoned | crashConcluding _ _ _ poisoned => exact absurd poisoned alive.usable
  | store | forget =>
      refine accounts_of_step stands rfl ?_ rfl rfl
      intro occurrence member
      rcases mem_decided member with rfl | ⟨_, rfl⟩ <;> exact ⟨rfl, rfl⟩
  | @succeed progress ends answer task going due result =>
      by_cases same : index = loop
      · subst same
        rw [Accounts, pending_of_stands stands, pending_of_set stands rfl]
        cases task <;>
          simp [Occurrence.polled?, Occurrence.handled?, LoopPhase.received?, LoopPhase.afterPoll]
      · exact accounts_of_idle
          (by simp [Idle, Occurrence.polled?, Occurrence.handled?, same])
          (pending_of_set_ne same rfl)
  | @handle task =>
      have hands := hands_of_alive poller alive index task
      by_cases same : index = loop
      · subst same
        rw [Accounts, hands.happened, pending_of_stands stands, pending_of_set stands hands.loops]
        cases current.obsolete? task <;>
          simp [discarding, List.filterMap_cons, Occurrence.polled?, Occurrence.handled?,
            LoopPhase.received?]
      · refine accounts_of_idle ?_ (pending_of_set_ne same hands.loops)
        rw [hands.happened]
        cases current.obsolete? task <;>
          simp [Idle, discarding, Occurrence.polled?, Occurrence.handled?, same]

theorem Happens.accounts (alive : current.Alive) (rostered : Rostered poller current)
    {move : CompanyMove} {outcome : Outcome} (happens : Happens poller current move outcome)
    (loop : Nat) : Accounts current outcome loop := by
  cases happens with
  | loop stands step => exact step.accounts alive stands
  | begins idle =>
      refine accounts_of_idle (by simp [Idle, Occurrence.polled?, Occurrence.handled?]) ?_
      have nobody : current.pending loop = [] := by simp [pending, (rostered.idle idle).1]
      rw [nobody]
      simp only [pending, List.getElem?_replicate]
      split <;> rfl
  | dispatches | cancels | passes | waits =>
      exact accounts_of_idle
        (by simp [Idle, PollerState.cancel, Occurrence.polled?, Occurrence.handled?]) rfl
  | joins =>
      refine accounts_of_idle ?_ rfl
      intro occurrence member
      obtain ⟨_, -, rfl⟩ := List.mem_map.mp member
      exact ⟨rfl, rfl⟩
  | finishes =>
      refine accounts_of_idle ?_ rfl
      intro occurrence member
      rcases mem_cleared member with ⟨_, rfl⟩ | rfl | ⟨_, rfl⟩ <;> exact ⟨rfl, rfl⟩
  | visits => exact accounts_of_idle (idle_perform _ _ _) rfl

theorem Balanced.next (alive : current.Alive) (rostered : Rostered poller current) {past : Trace}
    (balanced : current.Balanced past) {move : CompanyMove} {outcome : Outcome}
    (happens : Happens poller current move outcome) :
    outcome.1.Balanced (past ++ stamp current.now outcome.2) := by
  intro loop
  have accounts := happens.accounts alive rostered loop
  calc tasksPolled loop (past ++ stamp current.now outcome.2)
      = tasksHandled loop past ++
          (current.pending loop ++ outcome.2.filterMap (Occurrence.polled? loop)) := by
        rw [tasksPolled, List.filterMap_append, ← tasksPolled, ← tasksPolled, balanced loop,
          tasksPolled_stamp, List.append_assoc]
    _ = tasksHandled loop past ++
          (outcome.2.filterMap (Occurrence.handled? loop) ++ outcome.1.pending loop) := by
        rw [accounts]
    _ = tasksHandled loop (past ++ stamp current.now outcome.2) ++ outcome.1.pending loop := by
        rw [tasksHandled, tasksHandled, List.filterMap_append, ← tasksHandled, ← tasksHandled,
          tasksHandled_stamp, List.append_assoc]

theorem Balanced.after (alive : current.Alive) (rostered : Rostered poller current) {past : Trace}
    (balanced : current.Balanced past) (moves : List CompanyMove) :
    (current.after poller moves).Balanced (past ++ current.past poller moves) := by
  have kept : Kept poller Anyhow fun current past =>
      current.Alive ∧ Rostered poller current ∧ current.Balanced past := by
    rintro current past move outcome ⟨alive, rostered, balanced⟩ - happens
    exact ⟨happens.alive alive, rostered.next happens, balanced.next alive rostered happens⟩
  exact (kept.anyhow ⟨alive, rostered, balanced⟩ moves).2.2

end Account

def discardEvent (key : ExecutionKey) : Event :=
  .say .warn "received the full history for a cached execution, discarding the cached state"
    [executionField key]

structure Processes (poller : Poller) (current : PollerState) (past : Trace) : Prop where
  once : ∀ loop, tasksPolled loop past = tasksHandled loop past ++ current.pending loop
  polls : ∀ {move loop task}, .polled loop task ∈ (current.proceed poller move).2 ↔
    move = .own (.task (.loop loop)) ∧ current.pollEnd? poller loop = some (.ok task)
  inTurn : ∀ {move loop}, .called loop ∈ (current.proceed poller move).2 →
    current.pending loop = []
  atOnce : ∀ {time loop}, InTime poller current (.own (.pass time)) → current.pending loop = []
  settled : ∀ {moment loop}, current.runner = .finished moment → current.pending loop = []
  calls : ∀ {move loop task cached}, .handled loop task cached ∈ (current.proceed poller move).2 →
    move = .own (.task (.loop loop)) ∧ current.loops[loop]? = some (.received task) ∧
      cached = current.given task
  hands : ∀ {loop task}, current.loops[loop]? = some (.received task) →
    Hands poller current loop task (current.proceed poller (.own (.task (.loop loop))))
  warns : ∀ {loop task}, current.loops[loop]? = some (.received task) →
    (current.proceed poller (.own (.task (.loop loop)))).2.flatMap (Occurrence.events poller) =
      (current.obsolete? task).toList.map fun _ => discardEvent task.execution
  keeps : ∀ {loop task cached ends answer state},
    current.loops[loop]? = some (.handling task cached ends answer) → ends ≤ current.now →
    answer.kept? cached current.made = some state →
    let put := current.perform (.put task.execution state task.taskList)
    let moved := current.proceed poller (.own (.task (.loop loop)))
    moved.1.sticky = put.1.sticky ∧ moved.2 = .decided loop task answer :: put.2.2 ∧
      (current.stateOf task.execution = some state →
        put.2 = (.evicted none, []) ∧ ∀ key, moved.1.stateOf key = current.stateOf key)
  forgets : ∀ {loop task cached ends answer},
    current.loops[loop]? = some (.handling task cached ends answer) → ends ≤ current.now →
    answer.kept? cached current.made = none → (∀ crash, answer ≠ .crash crash) →
    let removal := current.perform (.remove task.execution)
    let moved := current.proceed poller (.own (.task (.loop loop)))
    moved.1.sticky = removal.1.sticky ∧ moved.2 = .decided loop task answer :: removal.2.2
  otherwise : ∀ {loop phase}, current.loops[loop]? = some phase →
    (∀ task, phase ≠ .received task) →
    (∀ task cached ends answer, phase ≠ .handling task cached ends answer) →
    (current.proceed poller (.own (.task (.loop loop)))).1.sticky = current.sticky

section Processes

variable {poller : Poller} {current : PollerState} {loop : Nat}

theorem pending_eq_nil (idle : ∀ task, current.loops[loop]? ≠ some (.received task)) :
    current.pending loop = [] := by
  unfold pending
  cases stands : current.loops[loop]? with
  | none => rfl
  | some phase =>
      cases phase with
      | received task => exact absurd stands (idle task)
      | throttle | holding | poll | calling | resting | handling | ended => rfl

theorem proceed_received {task : DecisionTask}
    (stands : current.loops[loop]? = some (.received task)) :
    current.proceed poller (.own (.task (.loop loop))) = handle poller current loop task :=
  proceed_loop (by simp [stepLoop, stands])

theorem proceed_handling {task : DecisionTask} {cached : Option StateName} {ends : Instant}
    {answer : HandlerAnswer}
    (stands : current.loops[loop]? = some (.handling task cached ends answer))
    (due : ends ≤ current.now) :
    LoopStep poller current loop (.handling task cached ends answer)
      (current.proceed poller (.own (.task (.loop loop)))) := by
  have step : stepLoop poller current loop = some (current.conclude loop task cached answer) := by
    simp [stepLoop, stands, due]
  rw [proceed_loop step]
  exact loopStep_conclude due

theorem events_discarding (poller : Poller) (loop : Nat) (task : DecisionTask) (length : Nat)
    (state given : Option StateName) :
    (discarding loop task length state ++ [Occurrence.handled loop task given]).flatMap
        (Occurrence.events poller) =
      state.toList.map fun _ => discardEvent task.execution := by
  cases state <;> rfl

theorem not_mem_discarding {task : DecisionTask} {length : Nat} {state given : Option StateName} :
    Occurrence.handled loop task given ∉ discarding loop task length state := by
  cases state <;> simp [discarding]

theorem LoopStep.keeps {task : DecisionTask} {cached : Option StateName} {ends : Instant}
    {answer : HandlerAnswer} {state : StateName} {outcome : Outcome}
    (step : LoopStep poller current loop (.handling task cached ends answer) outcome)
    (usable : current.sticky.standing ≠ .poisoned)
    (kept : answer.kept? cached current.made = some state) :
    let put := current.perform (.put task.execution state task.taskList)
    outcome.1.sticky = put.1.sticky ∧ outcome.2 = .decided loop task answer :: put.2.2 := by
  cases step with
  | abandon waits => rcases waits with interruptible | polls <;> cases ‹_›
  | store made _ keeps =>
      cases kept.symm.trans keeps
      exact ⟨rfl, rfl⟩
  | forget _ drops => cases kept.symm.trans drops
  | crashConcluding _ _ _ poisoned => exact absurd poisoned usable
  | crashHandling => cases kept

theorem LoopStep.forgets {task : DecisionTask} {cached : Option StateName} {ends : Instant}
    {answer : HandlerAnswer} {outcome : Outcome}
    (step : LoopStep poller current loop (.handling task cached ends answer) outcome)
    (usable : current.sticky.standing ≠ .poisoned)
    (drops : answer.kept? cached current.made = none) (returns : ∀ crash, answer ≠ .crash crash) :
    let removal := current.perform (.remove task.execution)
    outcome.1.sticky = removal.1.sticky ∧ outcome.2 = .decided loop task answer :: removal.2.2 := by
  cases step with
  | abandon waits => rcases waits with interruptible | polls <;> cases ‹_›
  | store _ _ keeps => cases drops.symm.trans keeps
  | forget => exact ⟨rfl, rfl⟩
  | crashConcluding _ _ _ poisoned => exact absurd poisoned usable
  | crashHandling => exact absurd rfl (returns _)

theorem LoopStep.sticky {phase : LoopPhase} {outcome : Outcome}
    (step : LoopStep poller current loop phase outcome)
    (noTask : ∀ task, phase ≠ .received task)
    (noHandler : ∀ task cached ends answer, phase ≠ .handling task cached ends answer) :
    outcome.1.sticky = current.sticky := by
  cases step with
  | handle => exact absurd rfl (noTask _)
  | store | forget => exact absurd rfl (noHandler _ _ _ _)
  | release | hold | crashAsking | abandon | wake | call | callAgain | succeed | fail | rest
  | crashPolling | crashLooking | crashConcluding | crashHandling => rfl

theorem pending_of_called {move : CompanyMove}
    (called : .called loop ∈ (current.proceed poller move).2) : current.pending loop = [] := by
  obtain ⟨phase, stands, -, calls⟩ := (happens_proceed poller current move).called called
  refine pending_eq_nil ?_
  intro task received
  cases received.symm.trans stands
  rcases calls with polls | ⟨_, _, rests⟩ <;> cases ‹_›

/-- The clock waits for a loop with a task on the way. -/
theorem pending_of_inTime {time : Duration} (inTime : InTime poller current (.own (.pass time))) :
    current.pending loop = [] := by
  refine pending_eq_nil ?_
  intro task received
  cases not_able_of_ready_eq_nil inTime.1 received

theorem Rostered.pending_of_finished (rostered : Rostered poller current) {moment : Instant}
    (finished : current.runner = .finished moment) : current.pending loop = [] := by
  refine pending_eq_nil ?_
  intro task received
  cases rostered.ended_of_finished finished received

/-- The handler is given what is cached at the moment of the call. -/
theorem given_of_handled (alive : current.Alive) {move : CompanyMove} {task : DecisionTask}
    {cached : Option StateName}
    (handled : .handled loop task cached ∈ (current.proceed poller move).2) :
    move = .own (.task (.loop loop)) ∧ current.loops[loop]? = some (.received task) ∧
      cached = current.given task := by
  obtain ⟨own, received, same⟩ := (happens_proceed poller current move).handled handled
  refine ⟨own, received, ?_⟩
  rw [same, (hands_of_alive poller alive loop task).happened] at handled
  rcases List.mem_append.mp handled with discarded | last
  · exact absurd discarded not_mem_discarding
  · cases List.mem_singleton.mp last
    rfl

theorem proceed_keeps (alive : current.Alive) {task : DecisionTask} {cached : Option StateName}
    {ends : Instant} {answer : HandlerAnswer} {state : StateName}
    (handling : current.loops[loop]? = some (.handling task cached ends answer))
    (due : ends ≤ current.now) (kept : answer.kept? cached current.made = some state) :
    let put := current.perform (.put task.execution state task.taskList)
    let moved := current.proceed poller (.own (.task (.loop loop)))
    moved.1.sticky = put.1.sticky ∧ moved.2 = .decided loop task answer :: put.2.2 ∧
      (current.stateOf task.execution = some state →
        put.2 = (.evicted none, []) ∧ ∀ key, moved.1.stateOf key = current.stateOf key) := by
  intro put moved
  have step : LoopStep poller current loop (.handling task cached ends answer) moved :=
    proceed_handling handling due
  obtain ⟨sticky, happened⟩ := step.keeps alive.usable kept
  refine ⟨sticky, happened, ?_⟩
  intro again
  obtain ⟨standing, live, sound⟩ := alive
  obtain ⟨silent, same⟩ := perform_put_again live sound again task.taskList
  refine ⟨silent, ?_⟩
  intro key
  rw [← same key, stateOf, stateOf, sticky]

theorem sticky_proceed {phase : LoopPhase} (stands : current.loops[loop]? = some phase)
    (noTask : ∀ task, phase ≠ .received task)
    (noHandler : ∀ task cached ends answer, phase ≠ .handling task cached ends answer) :
    (current.proceed poller (.own (.task (.loop loop)))).1.sticky = current.sticky := by
  have happens := happens_proceed poller current (.own (.task (.loop loop)))
  generalize current.proceed poller (.own (.task (.loop loop))) = outcome at happens
  cases happens with
  | loop here step =>
      cases here.symm.trans stands
      exact step.sticky noTask noHandler
  | waits => rfl

end Processes

/-- Every task of a poll is handed to the handler once, with what the cache holds for it, and the
cache changes as the handler decides. -/
theorem every_task_is_processed_once {poller : Poller} (steady : poller.backpressure.Steady)
    {sticky : StickyCache StateName} {cache : Cache StateName}
    (live : sticky.standing = .live cache) (sound : cache.Sound) (moves : List CompanyMove) :
    Processes poller ((start poller sticky).after poller moves)
      ((start poller sticky).past poller moves) := by
  have origin : (start poller sticky).Alive := ⟨cache, live, sound⟩
  have balanced : (start poller sticky).Balanced [] := fun _ => rfl
  have once := balanced.after origin (rostered_start poller sticky) moves
  have alive := origin.after poller moves
  have rostered := rostered_after poller sticky moves
  have sharing := sharing_after steady sticky moves
  generalize (start poller sticky).after poller moves = current at *
  refine
    { once
      polls := fun {move} => ((happens_proceed poller current move).reports steady sharing).succeeds
      inTurn := pending_of_called
      atOnce := pending_of_inTime
      settled := rostered.pending_of_finished
      calls := given_of_handled alive
      hands := ?hands
      warns := ?warns
      keeps := proceed_keeps alive
      forgets := fun handling due => (proceed_handling handling due).forgets alive.usable
      otherwise := sticky_proceed }
  case hands =>
    intro loop task received
    rw [proceed_received received]
    exact hands_of_alive poller alive loop task
  case warns =>
    intro loop task received
    rw [proceed_received received, (hands_of_alive poller alive loop task).happened]
    exact events_discarding poller loop task _ _ _

/-- The second task of an execution tells everything itself and makes the state obsolete that the
first one left. -/
theorem every_task_is_processed_once_when_told_again :
    let task : Bool → DecisionTask := fun full =>
      ⟨⟨"workflow", "run", by decide, by decide⟩, "tasks", "token", full⟩
    let never : RetryPolicy := ⟨fun _ _ _ => .ok .stop⟩
    let poller : Poller :=
      { taskList := "tasks", loops := 1, pollRetry := never, backpressure := never
        resets := ⟨.ofSeconds 10, fun _ => ⟨none, .success⟩⟩
        service := fun number => ⟨.zero, .task (task (number == 1))⟩
        handler := fun _ => ⟨.zero, .keep⟩ }
    let sticky : StickyCache StateName := ⟨.live (.empty 1), .start⟩
    let moves : List CompanyMove :=
      .own (.task .runner) :: List.replicate 9 (.own (.task (.loop 0)))
    let past := (start poller sticky).past poller moves
    poller.backpressure.Steady ∧ sticky.standing = .live (.empty 1) ∧
      (Cache.empty 1 : Cache StateName).Sound ∧
      tasksHandled 0 past = [task false, task true] ∧
      (.zero, .discarded 0 (task true).execution) ∈ past ∧
      Processes poller ((start poller sticky).after poller moves) past := by
  intro task never poller sticky moves past
  have steady : poller.backpressure.Steady := nofun
  have sound : (Cache.empty 1 : Cache StateName).Sound := Cache.empty_sound (by decide)
  exact ⟨steady, rfl, sound, by decide +kernel, by decide +kernel,
    every_task_is_processed_once steady rfl sound moves⟩

end PollerState

end DecisionWorker
