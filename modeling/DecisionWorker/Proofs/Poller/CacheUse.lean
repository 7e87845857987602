import DecisionWorker.Poller.Run
import DecisionWorker.Proofs.Poller.Company
import DecisionWorker.Proofs.Poller.Tracking

set_option autoImplicit false

/-!
What the loops do with the cache.

A loop looks a task up before it hands it over, and discards what it finds if the task tells
everything itself: `hands_of_alive` says what becomes of the cache and what happens. A cache that
is in order stays so whatever a poller and other users do with it (`Alive`).
-/

namespace DecisionWorker.PollerState

def Alive (current : PollerState) : Prop :=
  ∃ cache, current.sticky.standing = .live cache ∧ cache.Sound

theorem Alive.usable {current : PollerState} (alive : current.Alive) :
    current.sticky.standing ≠ .poisoned := by
  obtain ⟨cache, live, -⟩ := alive
  rw [live]
  exact nofun

/-- The cached state that a task makes obsolete, because it tells everything itself. -/
def obsolete? (current : PollerState) (task : DecisionTask) : Option StateName :=
  if task.fromStart then current.stateOf task.execution else none

/-- What happens when a loop discards the state that a task makes obsolete; its disposal sees the
given length. -/
def discarding (loop : Nat) (task : DecisionTask) (length : Nat) :
    Option StateName → List Occurrence
  | none => []
  | some state =>
      [.discarded loop task.execution, .sticky (.effect (.disposed state (some length)))]

section Operations

variable {current : PollerState} {cache : Cache StateName}

theorem stateOf_of_live (live : current.sticky.standing = .live cache) (key : ExecutionKey) :
    current.stateOf key = (cache.find? key).map Entry.state := by
  rw [stateOf, StickyCache.cached?_of_live live]

theorem perform_get (live : current.sticky.standing = .live cache) (key : ExecutionKey) :
    current.perform (.get key) =
      ({ current with sticky := ⟨.live (cache.touch key), current.sticky.dispatcher⟩ },
        .state (current.stateOf key), []) := by
  rw [stateOf_of_live live]
  simp only [PollerState.perform, StickyCache.perform, live]
  rfl

theorem perform_remove (live : current.sticky.standing = .live cache) (key : ExecutionKey) :
    current.perform (.remove key) =
      ({ current with sticky := ⟨.live (cache.erase key), current.sticky.dispatcher⟩ },
        .flag (cache.contains key),
        (current.stateOf key).toList.map fun state =>
          .sticky (.effect (.disposed state (some (cache.erase key).length)))) := by
  rw [stateOf_of_live live]
  simp only [PollerState.perform, StickyCache.perform, live]
  cases found : cache.find? key <;>
    simp [StickyCache.performLive, Cache.perform, Cache.remove, StickyCache.notifyAll, found]

theorem perform_alive (alive : current.Alive) (operation : CacheOperation StateName) :
    (current.perform operation).1.Alive := by
  obtain ⟨cache, live, sound⟩ := alive
  exact ⟨_, (perform_of_live live operation).1, Cache.perform_sound sound operation⟩

/-- The very state that is cached may be stored again: nobody notices. -/
theorem perform_put_again (live : current.sticky.standing = .live cache) (sound : cache.Sound)
    {key : ExecutionKey} {state : StateName} (cached : current.stateOf key = some state)
    (taskList : String) :
    (current.perform (.put key state taskList)).2 = (.evicted none, []) ∧
      ∀ other, (current.perform (.put key state taskList)).1.stateOf other =
        current.stateOf other := by
  rw [stateOf_of_live live] at cached
  obtain ⟨entry, found, rfl⟩ := Option.map_eq_some_iff.mp cached
  have stays : cache.victim? key = none := by simp [Cache.victim?, found]
  constructor
  · simp [PollerState.perform, StickyCache.perform, live, StickyCache.performLive, Cache.perform,
      Cache.put, Cache.insert_eq, stays, found, StickyCache.notifyAll, Cache.Insertion.released,
      Cache.Insertion.displaced]
  · intro other
    rw [stateOf_of_live (perform_of_live live _).1, stateOf_of_live live]
    simp only [Cache.perform, Cache.put, Cache.find?_insert sound, stays]
    split
    next same =>
      rw [← same, found]
      rfl
    next => rfl

end Operations

structure Hands (poller : Poller) (current : PollerState) (loop : Nat) (task : DecisionTask)
    (outcome : Outcome) : Prop where
  alive : outcome.1.Alive
  loops : outcome.1.loops = current.loops.set loop
    (.handling task (current.given task)
      (current.now + (poller.handler current.handled).latency.roundUp)
      (poller.handler current.handled).answer)
  happened : outcome.2 =
    discarding loop task outcome.1.cachedCount (current.obsolete? task) ++
      [.handled loop task (current.given task)]
  stateOf : ∀ key, outcome.1.stateOf key =
    if task.fromStart = true ∧ key = task.execution then none else current.stateOf key

section Handing

variable {poller : Poller} {current : PollerState} {cache : Cache StateName} {loop : Nat}
  {task : DecisionTask}

theorem handle_keeping (live : current.sticky.standing = .live cache)
    (keeps : current.obsolete? task = none) :
    handle poller current loop task =
      ({ current with
          sticky := ⟨.live (cache.touch task.execution), current.sticky.dispatcher⟩
          loops := current.loops.set loop
            (.handling task (current.given task)
              (current.now + (poller.handler current.handled).latency.roundUp)
              (poller.handler current.handled).answer)
          handled := current.handled + 1 },
        [.handled loop task (current.given task)]) := by
  cases full : task.fromStart with
  | false => simp [handle, handOver, perform_get live, given, full, setLoop]
  | true =>
      have absent : current.stateOf task.execution = none := by simpa [obsolete?, full] using keeps
      simp [handle, handOver, perform_get live, given, full, absent, setLoop]

theorem handle_discarding (live : current.sticky.standing = .live cache) (sound : cache.Sound)
    {state : StateName} (discards : current.obsolete? task = some state) :
    handle poller current loop task =
      ({ current with
          sticky := ⟨.live ((cache.touch task.execution).erase task.execution),
            current.sticky.dispatcher⟩
          loops := current.loops.set loop
            (.handling task none
              (current.now + (poller.handler current.handled).latency.roundUp)
              (poller.handler current.handled).answer)
          handled := current.handled + 1 },
        discarding loop task ((cache.touch task.execution).erase task.execution).length
            (some state) ++
          [.handled loop task none]) := by
  obtain ⟨full, found⟩ := Option.ite_none_right_eq_some.mp discards
  let looked : PollerState :=
    { current with sticky := ⟨.live (cache.touch task.execution), current.sticky.dispatcher⟩ }
  have standing : looked.sticky.standing = .live (cache.touch task.execution) := rfl
  have again : looked.stateOf task.execution = some state := by
    rw [stateOf_of_live standing, Cache.find?_touch sound, ← stateOf_of_live live, found]
  have removed := perform_remove standing task.execution
  simp only [again, looked] at removed
  simp [handle, handOver, perform_get live, found, full, removed, setLoop, discarding]

theorem hands_of_alive (poller : Poller) (alive : current.Alive) (loop : Nat)
    (task : DecisionTask) : Hands poller current loop task (handle poller current loop task) := by
  obtain ⟨cache, live, sound⟩ := alive
  cases obsolete : current.obsolete? task with
  | none =>
      rw [handle_keeping live obsolete]
      refine ⟨⟨_, rfl, Cache.touch_sound sound _⟩, rfl, by simp [obsolete, discarding], ?_⟩
      intro key
      rw [stateOf_of_live rfl, Cache.find?_touch sound, ← stateOf_of_live live]
      split
      next discards =>
        obtain ⟨full, rfl⟩ := discards
        simpa [obsolete?, full] using obsolete
      next => rfl
  | some state =>
      obtain ⟨full, found⟩ := Option.ite_none_right_eq_some.mp obsolete
      have untold : current.given task = none := by simp [given, full]
      have touched := Cache.touch_sound sound task.execution
      rw [handle_discarding live sound obsolete]
      refine ⟨⟨_, rfl, touched.restrict (Cache.others_sublist _ _)⟩, by rw [untold], ?_, ?_⟩
      · rw [untold, obsolete]
        rfl
      · intro key
        rw [stateOf_of_live rfl, Cache.find?_erase, Cache.find?_touch sound, stateOf_of_live live]
        by_cases same : task.execution = key
        · simp [same, full]
        · simp [same, Ne.symm same]

end Handing

section Moves

variable {poller : Poller} {current : PollerState}

theorem LoopStep.alive {loop : Nat} {phase : LoopPhase} {outcome : Outcome}
    (alive : current.Alive) (step : LoopStep poller current loop phase outcome) :
    outcome.1.Alive := by
  cases step with
  | handle => exact (hands_of_alive poller alive loop _).alive
  | store made due kept =>
      have same : ({ current with made } : PollerState).Alive := alive
      exact perform_alive same _
  | forget => exact perform_alive alive _
  | release | hold | crashAsking | abandon | wake | call | callAgain | succeed | fail | rest
  | crashPolling | crashLooking | crashConcluding | crashHandling => exact alive

theorem Happens.alive {move : CompanyMove} {outcome : Outcome} (alive : current.Alive)
    (happens : Happens poller current move outcome) : outcome.1.Alive := by
  cases happens with
  | loop stands step => exact step.alive alive
  | finishes => exact perform_alive alive .clear
  | visits => exact perform_alive alive _
  | begins | joins | dispatches | waits | cancels | passes => exact alive

theorem Alive.after (poller : Poller) (alive : current.Alive) (moves : List CompanyMove) :
    (current.after poller moves).Alive :=
  preserved (fun before happens => happens.alive before) alive moves

end Moves

end DecisionWorker.PollerState
