import DecisionWorker.Proofs.Poller.CacheUse

set_option autoImplicit false

/-!
When a handler is given a state that was disposed before.

If handlers keep only what they were given or what is new, disposed states come back in one
way alone: an earlier handler lost the state while it worked, and put it back.
-/

namespace DecisionWorker

/-- A handler keeps the very state that it was given or one that was never cached. -/
def HandlerAnswer.Honest (answer : HandlerAnswer) (cached : Option StateName) (made : Nat)
    (ever : List StateName) : Prop :=
  ∀ state ∈ answer.kept? cached made,
    (cached = some state ∧ answer.Returns state) ∨ state ∉ ever

namespace PollerState

instance (answer : HandlerAnswer) (state : StateName) : Decidable (answer.Returns state) :=
  inferInstanceAs (Decidable (answer = .keep ∨ answer = .keepOther state))

instance (answer : HandlerAnswer) (cached : Option StateName) (made : Nat)
    (ever : List StateName) : Decidable (answer.Honest cached made ever) :=
  inferInstanceAs (Decidable (∀ state ∈ answer.kept? cached made,
    (cached = some state ∧ answer.Returns state) ∨ state ∉ ever))

/-- The answer of a handler that a move takes up, and the state that the handler was given. -/
def verdict? (current : PollerState) : PollerMove → Option (Option StateName × HandlerAnswer)
  | .task (.loop loop) =>
      match current.loops[loop]? with
      | some (.handling _ cached ends answer) =>
          if ends ≤ current.now then some (cached, answer) else none
      | _ => none
  | _ => none

def stored? (current : PollerState) (move : PollerMove) : Option StateName :=
  (current.verdict? move).bind fun verdict => verdict.2.kept? verdict.1 current.made

def Honest (poller : Poller) (current : PollerState) (ever : List StateName) :
    List PollerMove → Prop
  | [] => True
  | first :: rest =>
      (∀ verdict ∈ current.verdict? first, verdict.2.Honest verdict.1 current.made ever) ∧
        Honest poller (current.move poller first).1 (ever ++ (current.stored? first).toList) rest

instance decidableHonest (poller : Poller) : ∀ (moves : List PollerMove) (current : PollerState)
    (ever : List StateName), Decidable (Honest poller current ever moves)
  | [], _, _ => inferInstanceAs (Decidable True)
  | first :: rest, current, ever =>
      have := decidableHonest poller rest (current.move poller first).1
        (ever ++ (current.stored? first).toList)
      inferInstanceAs (Decidable ((∀ verdict ∈ current.verdict? first,
        verdict.2.Honest verdict.1 current.made ever) ∧ Honest poller _ _ rest))

section Moves

variable {current : PollerState} {past : List Occurrence} {ever : List StateName}

theorem Tracked.forget (tracked : Tracked current past ever) (loop : Nat) (task : DecisionTask)
    (answer : HandlerAnswer) :
    let forgotten := current.carryOut loop task answer (.remove task.execution)
    Tracked forgotten.1 (past ++ forgotten.2) ever := by
  have decided : Tracked (current.setLoop loop .throttle)
      (past ++ [.decided loop task answer]) ever := tracked.decide rfl rfl
  have removed := decided.perform (.remove task.execution) (by rintro _ _ _ ⟨⟩)
  rw [List.append_assoc] at removed
  exact removed

theorem Tracked.handOver (poller : Poller) (tracked : Tracked current past ever) (loop : Nat)
    (task : DecisionTask) :
    let handed := handOver poller current loop task (current.stateOf task.execution)
    Tracked handed.1 (past ++ handed.2) ever := by
  cases cached : current.sticky.cached? task.execution with
  | none =>
      simp only [PollerState.handOver, stateOf, cached, Option.map_none, Option.isSome_none,
        Bool.false_and, Bool.false_eq_true, if_false, List.nil_append]
      exact tracked.handNothing rfl rfl rfl
  | some found =>
      cases full : task.fromStart with
      | false =>
          simp only [PollerState.handOver, stateOf, cached, full, Option.map_some, Bool.and_false,
            Bool.false_eq_true, if_false, List.nil_append]
          exact tracked.hand cached rfl rfl rfl
      | true =>
          have told : Tracked current (past ++ [.discarded loop task.execution]) ever :=
            tracked.quiet rfl id (by simp [Quiet])
          have removed := told.perform (.remove task.execution) (by rintro _ _ _ ⟨⟩)
          simp only [PollerState.handOver, stateOf, cached, full, Option.map_some,
            Option.isSome_some, Bool.and_self, if_true]
          have regroup : ∀ removes : List Occurrence,
              past ++ (.discarded loop task.execution :: removes ++ [.handled loop task none]) =
                past ++ [.discarded loop task.execution] ++ removes ++
                  [.handled loop task none] := by simp
          rw [regroup]
          exact removed.handNothing rfl rfl rfl

theorem Tracked.handle (poller : Poller) (tracked : Tracked current past ever) (loop : Nat)
    (task : DecisionTask) :
    Tracked (handle poller current loop task).1 (past ++ (handle poller current loop task).2)
      ever := by
  obtain ⟨cache, live, sound⟩ := tracked.live
  have looked := tracked.perform (.get task.execution) (by rintro _ _ _ ⟨⟩)
  have handed := looked.handOver poller loop task
  have same : (current.perform (.get task.execution)).1.stateOf task.execution =
      current.stateOf task.execution := by
    rw [perform_get live, stateOf_of_live rfl, stateOf_of_live live, Cache.find?_touch sound]
  rw [same] at handed
  simp only [PollerState.handle, perform_get live, List.append_nil] at handed ⊢
  exact handed

theorem Tracked.store (tracked : Tracked current past ever) {loop : Nat} {task : DecisionTask}
    {cached : Option StateName} {ends : Instant} {answer : HandlerAnswer} {state : StateName}
    (made : Nat) (working : current.loops[loop]? = some (.handling task cached ends answer))
    (honest : (cached = some state ∧ answer.Returns state) ∨ state ∉ ever) :
    let stored :=
      { current with made }.carryOut loop task answer (.put task.execution state task.taskList)
    Tracked stored.1 (past ++ stored.2) (ever ++ [state]) := by
  have decided : Tracked ({ current with made }.setLoop loop .throttle)
      (past ++ [.decided loop task answer]) (ever ++ [state]) := by
    apply Tracked.widen
    exact tracked.decide rfl rfl
  have held : ∀ {other found}, ({ current with made }.setLoop loop .throttle).held? other =
      some found → current.held? other = some found := held?_setLoop rfl
  have put := decided.perform (.put task.execution state task.taskList) <| by
    rintro _ _ _ ⟨⟩
    refine ⟨by simp, ?_, ?_⟩
    · intro other inUse
      have before : current.InUse state other := inUse.of_same rfl held
      rcases honest with ⟨rfl, -⟩ | fresh
      · have given : current.InUse state task.execution :=
          .inr ⟨loop, task, held?_of_handling working, rfl⟩
        exact tracked.oneKey before given
      · exact absurd (tracked.inUse before) fresh
    · intro disposed
      have before : state ∈ disposedIn past := by
        rw [disposedIn_append] at disposed
        exact (List.mem_append.mp disposed).resolve_right List.not_mem_nil
      rcases honest with ⟨rfl, returns⟩ | fresh
      · have underway := tracked.underway (held?_of_handling working)
        exact underway.putBack tracked.explained before returns
      · exact absurd (tracked.disposed before) fresh
  rw [List.append_assoc] at put
  exact put

theorem Tracked.dispatcher (poller : Poller) (tracked : Tracked current past ever)
    {outcome : Outcome} (step : stepDispatcher poller current = some outcome) :
    Tracked outcome.1 (past ++ outcome.2) ever := by
  obtain ⟨moved, dispatched, rfl⟩ := Option.map_eq_some_iff.mp step
  obtain ⟨_, _, rfl⟩ := Option.map_eq_some_iff.mp dispatched
  exact tracked.quiet rfl id (by simp [Quiet])

theorem Tracked.runner (poller : Poller) (tracked : Tracked current past ever)
    {outcome : Outcome} (step : stepRunner poller current = some outcome) :
    Tracked outcome.1 (past ++ outcome.2) ever := by
  unfold stepRunner at step
  split at step
  next =>
    cases step
    refine tracked.quiet rfl ?_ (by simp [Quiet])
    intro loop found working
    rw [held?, List.getElem?_replicate] at working
    split at working <;> cases working
  next =>
    split at step
    next crash rest _ =>
      cases step
      refine tracked.quiet rfl id ?_
      intro occurrence member
      obtain ⟨_, -, rfl⟩ := List.mem_map.mp member
      trivial
    next =>
      split at step
      next =>
        cases step
        have cleared := tracked.perform .clear (by rintro _ _ _ ⟨⟩)
        rw [← List.append_assoc]
        refine cleared.quiet rfl id ?_
        intro occurrence last
        rw [List.mem_singleton.mp last]
        rcases lastWord_cases (current.perform .clear).2.1 with same | ⟨_, same⟩ <;>
          rw [same] <;> trivial
      next => cases step
  next => cases step

theorem Tracked.stepLoop (poller : Poller) (tracked : Tracked current past ever) {loop : Nat}
    {outcome : Outcome} (step : stepLoop poller current loop = some outcome)
    (honest : ∀ verdict ∈ current.verdict? (.task (.loop loop)),
      verdict.2.Honest verdict.1 current.made ever) :
    Tracked outcome.1 (past ++ outcome.2)
      (ever ++ (current.stored? (.task (.loop loop))).toList) := by
  cases loopMoves_of_step (Alive.usable tracked.live) step with
  | aside moves => exact (tracked.aside moves).widen
  | @handle task received => exact (tracked.handle poller loop task).widen
  | @forget task _ _ answer working due kept => exact (tracked.forget loop task answer).widen
  | @store task cached ends answer state made working due kept =>
      have verdict : current.verdict? (.task (.loop loop)) = some (cached, answer) := by
        simp [verdict?, working, due]
      have stored : current.stored? (.task (.loop loop)) = some state := by
        simp [stored?, verdict, kept]
      rw [stored]
      exact tracked.store made working (honest _ verdict state kept)

theorem Tracked.move (poller : Poller) (tracked : Tracked current past ever) (move : PollerMove)
    (honest : ∀ verdict ∈ current.verdict? move, verdict.2.Honest verdict.1 current.made ever) :
    Tracked (current.move poller move).1 (past ++ (current.move poller move).2)
      (ever ++ (current.stored? move).toList) := by
  cases move with
  | cancel =>
      apply Tracked.widen
      refine tracked.quiet rfl id ?_
      simp [PollerState.move, PollerState.cancel, Quiet]
  | pass time =>
      apply Tracked.widen
      refine tracked.quiet rfl id ?_
      simp [PollerState.move]
  | task task =>
      simp only [PollerState.move]
      cases step : current.step poller task with
      | none => simpa using tracked.widen
      | some outcome =>
          cases task with
          | dispatcher => exact (tracked.dispatcher poller step).widen
          | runner => exact (tracked.runner poller step).widen
          | loop loop => exact tracked.stepLoop poller step honest

end Moves

theorem Tracked.interleave {poller : Poller} {current : PollerState} {past : List Occurrence}
    {ever : List StateName} (tracked : Tracked current past ever) {moves : List PollerMove}
    (honest : Honest poller current ever moves) :
    ∃ more, Tracked (current.interleave poller moves).1
      (past ++ (current.interleave poller moves).2) (ever ++ more) := by
  induction moves generalizing current past ever with
  | nil => exact ⟨[], by simpa [PollerState.interleave] using tracked⟩
  | cons first rest inductionHypothesis =>
      obtain ⟨now, later⟩ := honest
      obtain ⟨more, reached⟩ := inductionHypothesis (tracked.move poller first now) later
      rw [List.append_assoc, List.append_assoc] at reached
      exact ⟨_, reached⟩

theorem tracked_start (poller : Poller) {capacity : Nat} {timeout : Duration} {runtime : Bool}
    {sticky : StickyCache StateName}
    (created : StickyCache.create capacity timeout runtime = .ok sticky) :
    Tracked (start poller sticky) [] [] := by
  obtain ⟨positive, rfl⟩ := StickyCache.eq_of_create created
  have unused : ∀ {state key},
      ¬ (start poller ⟨.live (.empty capacity), .start⟩).InUse state key := by
    rintro state key (⟨entry, cached, -⟩ | ⟨loop, task, working, -⟩)
    · cases cached
    · cases working
  exact ⟨⟨_, rfl, Cache.empty_sound positive⟩, fun left => absurd left unused,
    fun inUse => absurd inUse unused, nofun, fun _ => nofun, nofun,
    fun before _ _ _ _ split => by simp at split⟩

/-- A handler is given a disposed state exactly if the state has been put back. -/
theorem disposed_before_handover_iff {poller : Poller} {capacity : Nat} {runtime : Bool}
    {sticky : StickyCache StateName}
    (created : StickyCache.create capacity poller.resets.timeout runtime = .ok sticky)
    {moves : List PollerMove} (honest : Honest poller (start poller sticky) [] moves)
    {before after : List Occurrence} {loop : Nat} {task : DecisionTask} {state : StateName}
    (handed : ((start poller sticky).interleave poller moves).2 =
      before ++ .handled loop task (some state) :: after) :
    state ∈ disposedIn before ↔ PutBack state before := by
  obtain ⟨_, tracked⟩ := (tracked_start poller created).interleave honest
  constructor
  · exact tracked.explained before after loop task state handed
  · exact PutBack.disposed

/-- A state is pushed out while its handler works, put back, and given out again. -/
theorem disposed_before_handover_iff_when_pushed_out :
    let first : ExecutionKey := ⟨"first", "run", by decide, by decide⟩
    let second : ExecutionKey := ⟨"second", "run", by decide, by decide⟩
    let task := fun key => (⟨key, "tasks", "token", false⟩ : DecisionTask)
    let never : RetryPolicy := ⟨fun _ _ _ => .ok .stop⟩
    let poller : Poller :=
      { taskList := "tasks", loops := 2, pollRetry := never, backpressure := never
        resets := ⟨.ofSeconds 10, fun _ => ⟨none, .success⟩⟩
        service := fun number => ⟨.zero, .task (task (if number = 2 then second else first))⟩
        handler := fun _ => ⟨.zero, .keep⟩ }
    let sticky : StickyCache StateName := ⟨.live (.empty 1), .start⟩
    let moves : List PollerMove :=
      .task .runner :: List.replicate 9 (.task (.loop 0)) ++
        List.replicate 5 (.task (.loop 1)) ++ List.replicate 5 (.task (.loop 0))
    let before := ((start poller sticky).interleave poller moves).2.dropLast
    StickyCache.create 1 poller.resets.timeout true = .ok sticky ∧
      Honest poller (start poller sticky) [] moves ∧
      ((start poller sticky).interleave poller moves).2 =
        before ++ [.handled 0 (task first) (some (.made 1))] ∧
      .made 1 ∈ disposedIn before ∧ PutBack (.made 1) before := by
  intro first second task never poller sticky moves before
  have created : StickyCache.create 1 poller.resets.timeout true = .ok sticky := rfl
  have honest : Honest poller (start poller sticky) [] moves := by decide +kernel
  have handed : ((start poller sticky).interleave poller moves).2 =
      before ++ [.handled 0 (task first) (some (.made 1))] := by decide +kernel
  have disposed : .made 1 ∈ disposedIn before := by decide +kernel
  exact ⟨created, honest, handed, disposed,
    (disposed_before_handover_iff created honest handed).mp disposed⟩

end PollerState

end DecisionWorker
