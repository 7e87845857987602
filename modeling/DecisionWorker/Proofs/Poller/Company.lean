import DecisionWorker.Poller.Schedule
import DecisionWorker.Proofs.Poller.LoopSteps

set_option autoImplicit false

/-!
Runs of a poller in company: others may use its cache whenever they like.

`work` lets the tasks of the poller, the token, the clock and the other users move in any order,
and notes when everything happens. `Happens` has one rule for each kind of move, and a property
that every move keeps holds of every run. In a `Prompt` run the clock stands still while anyone
can move, and never passes a moment for which someone waits.
-/

namespace DecisionWorker

/-- A move of a poller, or a use of its cache by somebody else. -/
inductive CompanyMove where
  | own (move : PollerMove)
  | visit (operation : CacheOperation StateName)

namespace PollerState

def proceed (poller : Poller) (current : PollerState) : CompanyMove → Outcome
  | .own move => current.move poller move
  | .visit operation =>
      let performed := current.perform operation
      (performed.1, performed.2.2)

def work (poller : Poller) (current : PollerState) : List CompanyMove → PollerState × Trace
  | [] => (current, [])
  | first :: rest =>
      let moved := current.proceed poller first
      let others := work poller moved.1 rest
      (others.1, stamp current.now moved.2 ++ others.2)

def after (poller : Poller) (current : PollerState) (moves : List CompanyMove) : PollerState :=
  (current.work poller moves).1

def past (poller : Poller) (current : PollerState) (moves : List CompanyMove) : Trace :=
  (current.work poller moves).2

theorem proceed_loop {poller : Poller} {current : PollerState} {loop : Nat} {outcome : Outcome}
    (step : stepLoop poller current loop = some outcome) :
    current.proceed poller (.own (.task (.loop loop))) = outcome := by
  simp [proceed, PollerState.move, PollerState.step, step]

section Runs

variable (poller : Poller) (current : PollerState)

@[simp]
theorem after_nil : current.after poller [] = current := rfl

@[simp]
theorem past_nil : current.past poller [] = [] := rfl

theorem after_cons (first : CompanyMove) (rest : List CompanyMove) :
    current.after poller (first :: rest) = (current.proceed poller first).1.after poller rest := rfl

theorem after_append (earlier later : List CompanyMove) :
    current.after poller (earlier ++ later) =
      (current.after poller earlier).after poller later := by
  induction earlier generalizing current with
  | nil => rfl
  | cons first rest inductionHypothesis => exact inductionHypothesis _

end Runs

inductive Happens (poller : Poller) (current : PollerState) : CompanyMove → Outcome → Prop where
  | loop {index : Nat} {phase : LoopPhase} {outcome : Outcome} :
      current.loops[index]? = some phase → LoopStep poller current index phase outcome →
      Happens poller current (.own (.task (.loop index))) outcome
  | begins :
      current.runner = .idle →
      Happens poller current (.own (.task .runner))
        ({ current with
            loops := List.replicate poller.loops .throttle
            runner := .joining poller.loops }, [.started])
  | joins {remaining : Nat} {crash : Option Crash} {rest : List (Option Crash)} :
      current.runner = .joining remaining → current.departed = crash :: rest →
      Happens poller current (.own (.task .runner))
        ({ current with departed := rest, runner := .joining (remaining - 1) },
          crash.toList.map .crashNoticed)
  | finishes :
      current.runner = .joining 0 → current.departed = [] →
      Happens poller current (.own (.task .runner))
        ({ (current.perform .clear).1 with runner := .finished current.now },
          (current.perform .clear).2.2 ++ [lastWord (current.perform .clear).2.1])
  | dispatches {dispatcher : Dispatcher} {happened : DispatchStep} :
      current.sticky.dispatcher.step poller.resets current.sticky.view current.now =
        some (dispatcher, happened) →
      Happens poller current (.own (.task .dispatcher))
        ({ current with sticky := { current.sticky with dispatcher } },
          [.sticky (.dispatched happened)])
  | waits {task : WorkerTask} :
      current.step poller task = none →
      Happens poller current (.own (.task task)) (current, [])
  | cancels : Happens poller current (.own .cancel) current.cancel
  | passes {time : Duration} :
      Happens poller current (.own (.pass time)) ({ current with now := current.now + time }, [])
  | visits {operation : CacheOperation StateName} :
      Happens poller current (.visit operation)
        ((current.perform operation).1, (current.perform operation).2.2)

theorem happens_runner {poller : Poller} {current : PollerState} {outcome : Outcome}
    (step : stepRunner poller current = some outcome) :
    Happens poller current (.own (.task .runner)) outcome := by
  unfold stepRunner at step
  split at step
  next idle =>
    cases step
    exact .begins idle
  next remaining joining =>
    split at step
    next crash rest departed =>
      cases step
      exact .joins joining departed
    next none =>
      split at step
      next zero =>
        cases step
        subst zero
        exact .finishes joining none
      next => cases step
  next => cases step

theorem happens_proceed (poller : Poller) (current : PollerState) (move : CompanyMove) :
    Happens poller current move (current.proceed poller move) := by
  cases move with
  | visit operation => exact .visits
  | own move =>
      cases move with
      | cancel => exact .cancels
      | pass time => exact .passes
      | task task =>
          cases step : current.step poller task with
          | none =>
              simp only [proceed, PollerState.move, step, Option.getD_none]
              exact .waits step
          | some outcome =>
              simp only [proceed, PollerState.move, step, Option.getD_some]
              cases task with
              | dispatcher =>
                  obtain ⟨moved, dispatched, rfl⟩ := Option.map_eq_some_iff.mp step
                  obtain ⟨_, stepped, rfl⟩ := Option.map_eq_some_iff.mp dispatched
                  exact .dispatches stepped
              | runner => exact happens_runner step
              | loop index =>
                  obtain ⟨phase, stands, stepped⟩ := loopStep_of_step step
                  exact .loop stands stepped

section Happens

variable {poller : Poller} {current : PollerState} {move : CompanyMove} {outcome : Outcome}

/-- Only loops call the service and the handler. -/
theorem Happens.of_loop {occurrence : Occurrence} (happens : Happens poller current move outcome)
    (member : occurrence ∈ outcome.2)
    (call : (∃ loop, occurrence = .called loop) ∨
      ∃ loop task cached, occurrence = .handled loop task cached) :
    ∃ index phase, move = .own (.task (.loop index)) ∧ current.loops[index]? = some phase ∧
      LoopStep poller current index phase outcome := by
  have unlike : ∀ {effect}, occurrence ≠ .sticky (.effect effect) := by
    rcases call with ⟨_, rfl⟩ | ⟨_, _, _, rfl⟩ <;> exact nofun
  cases happens with
  | loop stands step => exact ⟨_, _, rfl, stands, step⟩
  | visits =>
      obtain ⟨_, same⟩ := mem_perform member
      exact absurd same unlike
  | finishes =>
      rcases mem_cleared member with ⟨_, same⟩ | same | ⟨_, same⟩
      · exact absurd same unlike
      · rcases call with ⟨_, rfl⟩ | ⟨_, _, _, rfl⟩ <;> cases same
      · rcases call with ⟨_, rfl⟩ | ⟨_, _, _, rfl⟩ <;> cases same
  | joins =>
      obtain ⟨_, -, rfl⟩ := List.mem_map.mp member
      rcases call with ⟨_, same⟩ | ⟨_, _, _, same⟩ <;> cases same
  | begins | dispatches | cancels =>
      rcases call with ⟨_, rfl⟩ | ⟨_, _, _, rfl⟩ <;> cases List.mem_singleton.mp member
  | waits | passes => cases member

theorem Happens.called (happens : Happens poller current move outcome) {loop : Nat}
    (called : .called loop ∈ outcome.2) :
    ∃ phase, current.loops[loop]? = some phase ∧ current.cancelled = false ∧
      (phase = .poll ∨ ∃ progress wake, phase = .resting progress wake) := by
  obtain ⟨_, phase, -, stands, step⟩ := happens.of_loop called (.inl ⟨_, rfl⟩)
  obtain ⟨rfl, going, calls⟩ := step.called called
  exact ⟨phase, stands, going, calls⟩

theorem Happens.handled (happens : Happens poller current move outcome) {loop : Nat}
    {task : DecisionTask} {cached : Option StateName}
    (handled : .handled loop task cached ∈ outcome.2) :
    move = .own (.task (.loop loop)) ∧ current.loops[loop]? = some (.received task) ∧
      outcome = handle poller current loop task := by
  obtain ⟨_, _, rfl, stands, step⟩ := happens.of_loop handled (.inr ⟨_, _, _, rfl⟩)
  obtain ⟨rfl, rfl, same⟩ := step.handled handled
  exact ⟨rfl, stands, same⟩

end Happens

def Throughout (poller : Poller) (allowed : PollerState → CompanyMove → Prop)
    (current : PollerState) : List CompanyMove → Prop
  | [] => True
  | first :: rest =>
      allowed current first ∧ Throughout poller allowed (current.proceed poller first).1 rest

theorem throughout_append {poller : Poller} {allowed : PollerState → CompanyMove → Prop}
    {current : PollerState} {earlier later : List CompanyMove} :
    Throughout poller allowed current (earlier ++ later) ↔
      Throughout poller allowed current earlier ∧
        Throughout poller allowed (current.after poller earlier) later := by
  induction earlier generalizing current with
  | nil => simp [Throughout]
  | cons first rest inductionHypothesis =>
      simp only [List.cons_append, Throughout, inductionHypothesis, after_cons, and_assoc]

theorem throughout_of_forall {poller : Poller} {allowed : PollerState → CompanyMove → Prop}
    {moves : List CompanyMove} (always : ∀ move ∈ moves, ∀ current, allowed current move)
    (current : PollerState) : Throughout poller allowed current moves := by
  induction moves generalizing current with
  | nil => trivial
  | cons first rest inductionHypothesis =>
      refine ⟨always first List.mem_cons_self current, inductionHypothesis ?_ _⟩
      exact fun move inRest => always move (List.mem_cons_of_mem _ inRest)

/-- A property of a poller and its past that every allowed move keeps. -/
def Kept (poller : Poller) (allowed : PollerState → CompanyMove → Prop)
    (holds : PollerState → Trace → Prop) : Prop :=
  ∀ ⦃current past move outcome⦄, holds current past → allowed current move →
    Happens poller current move outcome → holds outcome.1 (past ++ stamp current.now outcome.2)

theorem Kept.work {poller : Poller} {allowed : PollerState → CompanyMove → Prop}
    {holds : PollerState → Trace → Prop} (kept : Kept poller allowed holds)
    {current : PollerState} {past : Trace} (before : holds current past)
    {moves : List CompanyMove} (throughout : Throughout poller allowed current moves) :
    holds (current.after poller moves) (past ++ current.past poller moves) := by
  induction moves generalizing current past with
  | nil => simpa using before
  | cons first rest inductionHypothesis =>
      have next := kept before throughout.1 (happens_proceed poller current first)
      have last := inductionHypothesis next throughout.2
      rw [List.append_assoc] at last
      exact last

theorem Kept.run {poller : Poller} {allowed : PollerState → CompanyMove → Prop}
    {holds : PollerState → Trace → Prop} (kept : Kept poller allowed holds)
    {current : PollerState} (before : holds current []) {moves : List CompanyMove}
    (throughout : Throughout poller allowed current moves) :
    holds (current.after poller moves) (current.past poller moves) :=
  kept.work before throughout

def Anyhow (_ : PollerState) (_ : CompanyMove) : Prop := True

theorem Kept.anyhow {poller : Poller} {holds : PollerState → Trace → Prop}
    (kept : Kept poller Anyhow holds) {current : PollerState} {past : Trace}
    (before : holds current past) (moves : List CompanyMove) :
    holds (current.after poller moves) (past ++ current.past poller moves) :=
  kept.work before (throughout_of_forall (fun _ _ _ => trivial) current)

/-- What every move preserves, every run preserves. -/
theorem preserved {poller : Poller} {holds : PollerState → Prop}
    (next : ∀ {current move outcome}, holds current → Happens poller current move outcome →
      holds outcome.1)
    {current : PollerState} (before : holds current) (moves : List CompanyMove) :
    holds (current.after poller moves) := by
  have kept : Kept poller Anyhow fun current _ => holds current :=
    fun _ _ _ _ held _ happens => next held happens
  exact kept.run before (throughout_of_forall (fun _ _ _ => trivial) current)

/-- The clock moves only while nobody else can, and not past a moment for which someone waits. -/
def InTime (poller : Poller) (current : PollerState) : CompanyMove → Prop
  | .own (.pass time) =>
      current.ready poller = [] ∧ ∀ timer ∈ current.timers, current.now + time ≤ timer
  | _ => True

instance (poller : Poller) (current : PollerState) :
    (move : CompanyMove) → Decidable (InTime poller current move)
  | .own (.pass time) =>
      inferInstanceAs (Decidable (current.ready poller = [] ∧
        ∀ timer ∈ current.timers, current.now + time ≤ timer))
  | .own (.task _) => isTrue trivial
  | .own .cancel => isTrue trivial
  | .visit _ => isTrue trivial

instance decidableThroughout (poller : Poller) (allowed : PollerState → CompanyMove → Prop)
    [∀ current move, Decidable (allowed current move)] :
    (current : PollerState) → (moves : List CompanyMove) →
      Decidable (Throughout poller allowed current moves)
  | _, [] => isTrue trivial
  | current, first :: rest =>
      have := decidableThroughout poller allowed (current.proceed poller first).1 rest
      inferInstanceAs (Decidable (allowed current first ∧
        Throughout poller allowed (current.proceed poller first).1 rest))

abbrev Prompt (poller : Poller) (current : PollerState) (moves : List CompanyMove) : Prop :=
  Throughout poller (InTime poller) current moves

end PollerState

end DecisionWorker
