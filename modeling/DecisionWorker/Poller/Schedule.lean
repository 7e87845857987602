import DecisionWorker.Poller.Step

set_option autoImplicit false

/-!
One way to run the tasks of a poller: in turn, each until it has to wait.

Tasks that can move stand in a queue in the order in which they became able to. A task that
finds one wait after another over already does not go on for ever: when its allowance is used
up it steps aside until the queue is empty, or for 61 turns at most. The clock stands still
until nobody can move, and then jumps to the next moment for which someone waits.
-/

namespace DecisionWorker

/-- How far to go: up to a moment, or until the runner has finished. -/
inductive Goal where
  | moment (moment : Instant)
  | finished

namespace PollerState

def canMove (poller : Poller) (current : PollerState) (task : WorkerTask) : Bool :=
  (current.step poller task).isSome

def able (current : PollerState) (phase : LoopPhase) : Bool :=
  phase.able current.now current.cancelled

def ready (poller : Poller) (current : PollerState) : List WorkerTask :=
  [.dispatcher, .runner].filter (canMove poller current) ++
    (current.loops.zipIdx.filter fun loop => current.able loop.1).map fun loop => .loop loop.2

/-- Of the loops numbered from `first` on, those that have become able to move. -/
def wokenLoops (wasAble isAble : LoopPhase → Bool) (first : Nat) :
    (before after : List LoopPhase) → List WorkerTask
  | _, [] => []
  | [], phase :: rest =>
      let others := wokenLoops wasAble isAble (first + 1) [] rest
      if isAble phase then .loop first :: others else others
  | earlier :: before, phase :: rest =>
      let others := wokenLoops wasAble isAble (first + 1) before rest
      if isAble phase && !wasAble earlier then .loop first :: others else others

def woken (poller : Poller) (before current : PollerState) : List WorkerTask :=
  ([.dispatcher, .runner].filter fun task =>
      current.canMove poller task && !before.canMove poller task) ++
    wokenLoops before.able current.able 0 before.loops current.loops

def earliest : List Instant → Option Instant
  | [] => none
  | moment :: rest =>
      match earliest rest with
      | none => some moment
      | some other => some (min moment other)

/-- The moment to which the clock jumps when nobody can move, unless the goal is reached. -/
def nextMoment (current : PollerState) : Goal → Option Instant
  | .moment moment => (earliest current.timers).filter fun timer => timer ≤ moment
  | .finished => if current.runner.finishedAt?.isSome then none else earliest current.timers

def arrive (current : PollerState) : Goal → PollerState
  | .moment moment => { current with now := max current.now moment }
  | .finished => current

/-- What a task needs of its allowance for the next move. -/
inductive Toll where
  | free
  /-- Some of the allowance has to be left. -/
  | leftover
  | wait
  deriving DecidableEq

def Toll.cost : Toll → Nat
  | .wait => 1
  | _ => 0

/-- A loop looks at its allowance wherever a cancellation could stop it, and every pause that
is over counts as a wait; so does every notice that the dispatcher takes. -/
def toll (current : PollerState) : WorkerTask → Toll
  | .dispatcher =>
      match current.sticky.dispatcher.phase with
      | .waiting => .wait
      | _ => .free
  | .runner => .free
  | .loop index =>
      match current.loops[index]? with
      | some (.holding _) => .wait
      | some .poll => .leftover
      | some (.resting _ _) => .wait
      | _ => .free

def fullAllowance : Nat := 128

/-- The allowance of a turn. A turn that begins at the end of a call has passed a wait. -/
def allowance (current : PollerState) : WorkerTask → Nat
  | .dispatcher =>
      match current.sticky.dispatcher.phase with
      | .calling _ _ _ => fullAllowance - 1
      | _ => fullAllowance
  | .runner => fullAllowance
  | .loop index =>
      match current.loops[index]? with
      | some (.calling _ _ _) => fullAllowance - 1
      | some (.handling _ _ _ _) => fullAllowance - 1
      | _ => fullAllowance

/-- Who moves next: the first task of the queue has its turn, with so much of its allowance
left. Others have stepped aside, the last of them first, and so many turns have ended since
anyone was let in again. -/
structure Agenda where
  queue : List WorkerTask
  left : Nat
  aside : List WorkerTask
  turns : Nat

/-- After so many turns those who have stepped aside are let in even if others still queue. -/
def turnsAside : Nat := 61

def agenda (current : PollerState) (queue aside : List WorkerTask) (turns : Nat) : Agenda :=
  let left (tasks : List WorkerTask) := (tasks.head?.map current.allowance).getD fullAllowance
  if turns < turnsAside then ⟨queue, left queue, aside, turns⟩
  else ⟨queue ++ aside, left (queue ++ aside), [], 0⟩

/-- The agenda of all tasks that can move. A task that has not run yet has its first turn in
any case. -/
def readyAgenda (poller : Poller) (current : PollerState) : Agenda :=
  let queue :=
    match current.runner with
    | .idle => [.dispatcher, .runner]
    | _ => current.ready poller
  current.agenda queue [] 0

/-- The agenda after a move within a turn: whoever has become able to move joins the end of the
queue. -/
def requeue (poller : Poller) (before current : PollerState) (agenda : Agenda) (cost : Nat) :
    Agenda :=
  let joining := (woken poller before current).filter fun task =>
    !agenda.queue.contains task && !agenda.aside.contains task
  { agenda with queue := agenda.queue ++ joining, left := agenda.left - cost }

/-- Runs the tasks until the goal is reached, unless that takes more than `limit` moves and
turns. -/
def run (poller : Poller) (goal : Goal) :
    (limit : Nat) → PollerState → Agenda → Option (PollerState × Trace)
  | 0, _, _ => none
  | limit + 1, current, ⟨[], _, [], _⟩ =>
      match current.nextMoment goal with
      | none => some (current.arrive goal, [])
      | some moment =>
          let later := { current with now := moment }
          later.run poller goal limit (later.readyAgenda poller)
  | limit + 1, current, ⟨[], _, task :: others, _⟩ =>
      current.run poller goal limit (current.agenda (task :: others) [] 0)
  | limit + 1, current, ⟨task :: rest, left, aside, turns⟩ =>
      let toll := current.toll task
      if left = 0 ∧ toll ≠ .free then
        current.run poller goal limit (current.agenda rest (task :: aside) (turns + 1))
      else
        match current.step poller task with
        | none => current.run poller goal limit (current.agenda rest aside (turns + 1))
        | some (next, happened) =>
            let agenda :=
              requeue poller current next ⟨task :: rest, left, aside, turns⟩ toll.cost
            match next.run poller goal limit agenda with
            | none => none
            | some (last, trace) => some (last, stamp current.now happened ++ trace)

end PollerState

end DecisionWorker
