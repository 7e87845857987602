import DecisionWorker.Poller.Step

set_option autoImplicit false

/-!
Runs of a poller in which its tasks move in any order.

`interleave` leaves it open who moves next and how far the clock runs in between, so it
covers every scheduler.
-/

namespace DecisionWorker

/-- Something that moves a poller on. -/
inductive PollerMove where
  | task (task : WorkerTask)
  | cancel
  | pass (time : Duration)

def HandlerAnswer.kept? (answer : HandlerAnswer) (cached : Option StateName) (made : Nat) :
    Option StateName :=
  match answer with
  | .keep => some (cached.getD (.made (made + 1)))
  | .renew => some (.made (made + 1))
  | .keepOther state => some state
  | .completed => none
  | .failure _ => none
  | .crash _ => none

/-- The task and the state that a handler is at work on. -/
def LoopPhase.held? : LoopPhase → Option (DecisionTask × StateName)
  | .handling task (some state) _ _ => some (task, state)
  | _ => none

namespace PollerState

/-- A move of a poller; a task that has to wait does nothing. -/
def move (poller : Poller) (current : PollerState) : PollerMove → Outcome
  | .task task => (current.step poller task).getD (current, [])
  | .cancel => current.cancel
  | .pass time => ({ current with now := current.now + time }, [])

def interleave (poller : Poller) (current : PollerState) : List PollerMove → Outcome
  | [] => (current, [])
  | first :: rest =>
      let moved := current.move poller first
      let others := interleave poller moved.1 rest
      (others.1, moved.2 ++ others.2)

def held? (current : PollerState) (loop : Nat) : Option (DecisionTask × StateName) :=
  current.loops[loop]?.bind LoopPhase.held?

theorem held?_of_handling {current : PollerState} {loop : Nat} {task : DecisionTask}
    {state : StateName} {ends : Instant} {answer : HandlerAnswer}
    (working : current.loops[loop]? = some (.handling task (some state) ends answer)) :
    current.held? loop = some (task, state) := by
  rw [held?, working]
  rfl

theorem held?_of_set {loops : List LoopPhase} {loop other : Nat} {phase : LoopPhase}
    {found : DecisionTask × StateName}
    (held : (loops.set loop phase)[other]?.bind LoopPhase.held? = some found) :
    (other = loop ∧ phase.held? = some found) ∨
      (other ≠ loop ∧ loops[other]?.bind LoopPhase.held? = some found) := by
  rw [List.getElem?_set] at held
  split at held
  next same =>
    split at held
    next => exact .inl ⟨same.symm, held⟩
    next => cases held
  next unlike => exact .inr ⟨Ne.symm unlike, held⟩

end PollerState

end DecisionWorker
