import DecisionWorker.Poller.State

set_option autoImplicit false

/-!
Single moves of the tasks of a poller.

`PollerState.step` is the next move of one task at the present moment; there is none
while the task has to wait. Any order of moves is a possible run. The cancellation token
is looked at before a poll begins and at every wait; while the handler works nobody
looks at it.
-/

namespace DecisionWorker

inductive WorkerTask where
  | dispatcher
  | runner
  | loop (index : Nat)
  deriving DecidableEq

namespace PollerState

abbrev Outcome := PollerState × List Occurrence

def depart (current : PollerState) (loop : Nat) (crash : Option Crash) : Outcome :=
  ({ current.setLoop loop .ended with departed := current.departed ++ [crash] },
    [.departed loop crash])

def throttle (current : PollerState) (loop : Nat) : Outcome :=
  let reply := current.shared.delay current.now
  let asked := { current with shared := reply.shared }
  match reply.delay with
  | .error crash => asked.depart loop (some crash)
  | .ok none => (asked.setLoop loop .poll, [.throttled loop none])
  | .ok (some delay) =>
      (asked.setLoop loop (.holding (current.now + delay.timer)), [.throttled loop (some delay)])

def call (poller : Poller) (current : PollerState) (loop : Nat) (progress : PollProgress) :
    Outcome :=
  let behaviour := poller.service current.polls
  let phase := .calling progress (current.now + behaviour.latency.roundUp) behaviour.answer
  ({ current.setLoop loop phase with polls := current.polls + 1 }, [.called loop])

def succeed (current : PollerState) (loop : Nat) (task : Option DecisionTask) : Outcome :=
  match current.shared.succeeded with
  | .error crash => current.depart loop (some crash)
  | .ok shared =>
      let phase : LoopPhase :=
        match task with
        | none => .throttle
        | some task => .received task
      ({ current.setLoop loop phase with shared }, [.polled loop task])

def fail (current : PollerState) (loop : Nat) (error : ServiceError) : Outcome :=
  match current.shared.failed current.now with
  | .error crash => current.depart loop (some crash)
  | .ok shared =>
      ({ current.setLoop loop .throttle with shared },
        [.pollFailed loop shared.streak.failures error])

/-- Within a poll only transient errors are retried. -/
def pollPlan (poller : Poller) : RetryPlan ServiceError where
  policy := poller.pollRetry
  retryable? := some ServiceError.isTransient

/-- A call has failed: the poll ends, or the loop waits and calls again. -/
def callFailed (poller : Poller) (current : PollerState) (loop : Nat) (progress : PollProgress)
    (error : ServiceError) : Outcome :=
  let plan := pollPlan poller
  let considered :=
    plan.consider current.consultations progress.attempt (current.now - progress.started) error
  let counted :=
    { current with consultations := current.consultations + if plan.accepts error then 1 else 0 }
  match considered.1 with
  | .giveUp => counted.fail loop error
  | .crashed crash => counted.depart loop (some crash)
  | .again attempt delay =>
      (counted.setLoop loop (.resting { progress with attempt } (current.now + delay.timer)),
        [.retrying loop attempt delay error])

def answered (poller : Poller) (current : PollerState) (loop : Nat) (progress : PollProgress) :
    PollAnswer → Outcome
  | .empty => current.succeed loop none
  | .task task => current.succeed loop (some task)
  | .failure error => callFailed poller current loop progress error
  | .crash crash => current.depart loop (some crash)

/-- Hands a task to the handler, with the state that was found for it unless the task tells
everything itself. -/
def handOver (poller : Poller) (current : PollerState) (loop : Nat) (task : DecisionTask)
    (found : Option StateName) : Outcome :=
  let discards := found.isSome && task.fromStart
  let kept : PollerState × List Occurrence :=
    if discards then
      let removed := current.perform (.remove task.execution)
      (removed.1, .discarded loop task.execution :: removed.2.2)
    else (current, [])
  let cached := if discards then none else found
  let behaviour := poller.handler current.handled
  let phase := .handling task cached (current.now + behaviour.latency.roundUp) behaviour.answer
  ({ kept.1.setLoop loop phase with handled := current.handled + 1 },
    kept.2 ++ [.handled loop task cached])

def handle (poller : Poller) (current : PollerState) (loop : Nat) (task : DecisionTask) :
    Outcome :=
  let looked := current.perform (.get task.execution)
  match looked.2.1 with
  | .crashed crash => current.depart loop (some crash)
  | .state found => handOver poller looked.1 loop task found
  | _ => handOver poller looked.1 loop task none

def carryOut (current : PollerState) (loop : Nat) (task : DecisionTask) (answer : HandlerAnswer)
    (operation : CacheOperation StateName) : Outcome :=
  let performed := current.perform operation
  (performed.1.setLoop loop .throttle, .decided loop task answer :: performed.2.2)

/-- Takes up the answer of a handler; a loop that cannot use the cache ends. -/
def takeUp (current : PollerState) (loop : Nat) (task : DecisionTask) (answer : HandlerAnswer)
    (operation : CacheOperation StateName) : Outcome :=
  match (current.perform operation).2.1 with
  | .crashed crash =>
      let ended := current.depart loop (some crash)
      (ended.1, .decided loop task answer :: ended.2)
  | _ => current.carryOut loop task answer operation

def store (current : PollerState) (loop : Nat) (task : DecisionTask) (answer : HandlerAnswer)
    (state : StateName) : Outcome :=
  current.takeUp loop task answer (.put task.execution state task.taskList)

def storeNew (current : PollerState) (loop : Nat) (task : DecisionTask)
    (answer : HandlerAnswer) : Outcome :=
  { current with made := current.made + 1 }.store loop task answer (.made (current.made + 1))

def forget (current : PollerState) (loop : Nat) (task : DecisionTask)
    (answer : HandlerAnswer) : Outcome :=
  current.takeUp loop task answer (.remove task.execution)

/-- The handler has answered; a loop whose handler crashes ends. -/
def conclude (current : PollerState) (loop : Nat) (task : DecisionTask)
    (cached : Option StateName) (answer : HandlerAnswer) : Outcome :=
  match answer with
  | .keep =>
      match cached with
      | some state => current.store loop task answer state
      | none => current.storeNew loop task answer
  | .renew => current.storeNew loop task answer
  | .keepOther state => current.store loop task answer state
  | .completed => current.forget loop task answer
  | .failure _ => current.forget loop task answer
  | .crash crash => current.depart loop (some crash)

def stepLoop (poller : Poller) (current : PollerState) (loop : Nat) : Option Outcome :=
  match current.loops[loop]? with
  | none => none
  | some .throttle => some (current.throttle loop)
  | some (.holding wake) =>
      if current.cancelled then some (current.depart loop none)
      else if wake ≤ current.now then some (current.setLoop loop .poll, [])
      else none
  | some .poll =>
      if current.cancelled then some (current.depart loop none)
      else some (call poller current loop ⟨current.now, 0⟩)
  | some (.calling progress ends answer) =>
      if current.cancelled then some (current.depart loop none)
      else if ends ≤ current.now then some (answered poller current loop progress answer)
      else none
  | some (.resting progress wake) =>
      if current.cancelled then some (current.depart loop none)
      else if wake ≤ current.now then some (call poller current loop progress)
      else none
  | some (.received task) => some (handle poller current loop task)
  | some (.handling task cached ends answer) =>
      if ends ≤ current.now then some (current.conclude loop task cached answer) else none
  | some .ended => none

/-- A loop moves exactly if its phase is able to. -/
theorem isSome_stepLoop (poller : Poller) (current : PollerState) (loop : Nat) :
    (stepLoop poller current loop).isSome =
      (current.loops[loop]?.map (LoopPhase.able current.now current.cancelled)).getD false := by
  unfold stepLoop
  cases current.loops[loop]? with
  | none => rfl
  | some phase => cases phase <;> grind [LoopPhase.able]

def lastWord : CacheReply StateName → Occurrence
  | .crashed crash => .runnerCrashed crash
  | _ => .finished

/-- The next move of the task that runs the loops: it starts them, takes note of each that
ends, and clears the cache after the last one. -/
def stepRunner (poller : Poller) (current : PollerState) : Option Outcome :=
  match current.runner with
  | .idle =>
      some ({ current with
              loops := List.replicate poller.loops .throttle
              runner := .joining poller.loops }, [.started])
  | .joining remaining =>
      match current.departed with
      | crash :: rest =>
          some ({ current with departed := rest, runner := .joining (remaining - 1) },
            crash.toList.map .crashNoticed)
      | [] =>
          if remaining = 0 then
            let cleared := current.perform .clear
            some ({ cleared.1 with runner := .finished current.now },
              cleared.2.2 ++ [lastWord cleared.2.1])
          else none
  | .finished _ => none

def stepDispatcher (poller : Poller) (current : PollerState) : Option Outcome :=
  (current.sticky.dispatch poller.resets current.now).map fun moved =>
    ({ current with sticky := moved.1 }, [.sticky (.dispatched moved.2)])

def step (poller : Poller) (current : PollerState) : WorkerTask → Option Outcome
  | .dispatcher => stepDispatcher poller current
  | .runner => stepRunner poller current
  | .loop index => stepLoop poller current index

def timerOf : LoopPhase → Option Instant
  | .holding wake => some wake
  | .calling _ ends _ => some ends
  | .resting _ wake => some wake
  | .handling _ _ ends _ => some ends
  | _ => none

def timers (current : PollerState) : List Instant :=
  current.sticky.dispatcher.timer?.toList ++ current.loops.filterMap timerOf

end PollerState

end DecisionWorker
