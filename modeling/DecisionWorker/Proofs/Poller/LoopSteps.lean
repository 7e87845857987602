import DecisionWorker.Proofs.Poller.Interleaving
import DecisionWorker.Proofs.Sticky.Notices

set_option autoImplicit false

/-!
All that a poll loop can do in one move.

`LoopStep` has one rule for each thing that a loop may do next, with the phase in which it does
so and everything that it changes; `loopStep_of_step` says that there is nothing else. For the
cache a loop matters only when it hands a task to a handler and when it takes up the answer
(`loopMoves_of_step`).
-/

namespace DecisionWorker

/-- A service call or a wait: a loop that is in it gives it up when the token is cancelled. -/
def LoopPhase.Interruptible : LoopPhase → Prop
  | .holding _ | .calling _ _ _ | .resting _ _ => True
  | _ => False

def Occurrence.Aside : Occurrence → Prop
  | .sticky _ | .discarded _ _ | .handled _ _ _ | .decided _ _ _ => False
  | _ => True

def PollAnswer.result? : PollAnswer → Option (Option DecisionTask)
  | .empty => some none
  | .task received => some (some received)
  | .failure _ => none
  | .crash _ => none

def LoopPhase.afterPoll : Option DecisionTask → LoopPhase
  | none => .throttle
  | some task => .received task

namespace PollerState

def stateOf (current : PollerState) (key : ExecutionKey) : Option StateName :=
  (current.sticky.cached? key).map Entry.state

def given (current : PollerState) (task : DecisionTask) : Option StateName :=
  if task.fromStart then none else current.stateOf task.execution

/-- What a loop does about a call that has failed. -/
def verdict (poller : Poller) (current : PollerState) (progress : PollProgress)
    (error : ServiceError) : Verdict :=
  ((pollPlan poller).consider current.consultations progress.attempt
    (current.now - progress.started) error).1

section Replies

variable {poller : Poller} {current : PollerState} {loop : Nat} {task : DecisionTask}
  {answer : HandlerAnswer} {operation : CacheOperation StateName}

/-- Only a poisoned cache makes an operation crash. -/
theorem reply_of_usable (usable : current.sticky.standing ≠ .poisoned)
    (operation : CacheOperation StateName) (crash : Crash) :
    (current.perform operation).2.1 ≠ .crashed crash := by
  simp only [PollerState.perform, StickyCache.perform]
  cases standing : current.sticky.standing with
  | live cache =>
    intro crashed
    cases operation <;> cases crashed
  | poisoned => exact absurd standing usable
  | dropped =>
    intro crashed
    cases crashed

theorem reply_of_poisoned (poisoned : current.sticky.standing = .poisoned)
    (uses : operation ≠ .describe) :
    (current.perform operation).2.1 = .crashed StickyCache.poison := by
  simp only [PollerState.perform, StickyCache.perform, poisoned]

theorem handle_of_poisoned (poisoned : current.sticky.standing = .poisoned) :
    handle poller current loop task = current.depart loop (some StickyCache.poison) := by
  have crashes : (current.perform (.get task.execution)).2.1 = .crashed StickyCache.poison :=
    reply_of_poisoned poisoned nofun
  simp only [handle, crashes]

theorem takeUp_of_usable (usable : current.sticky.standing ≠ .poisoned) :
    current.takeUp loop task answer operation = current.carryOut loop task answer operation := by
  unfold takeUp
  split
  next crash crashed => exact absurd crashed (reply_of_usable usable operation crash)
  next => rfl

theorem takeUp_of_poisoned (poisoned : current.sticky.standing = .poisoned)
    (uses : operation ≠ .describe) :
    current.takeUp loop task answer operation =
      ((current.depart loop (some StickyCache.poison)).1,
        [.decided loop task answer, .departed loop (some StickyCache.poison)]) := by
  simp only [takeUp, reply_of_poisoned poisoned uses]
  rfl

end Replies

inductive LoopStep (poller : Poller) (current : PollerState) (loop : Nat) :
    LoopPhase → Outcome → Prop where
  | release :
      (current.shared.delay current.now).delay = .ok none →
      LoopStep poller current loop .throttle
        ({ current with shared := (current.shared.delay current.now).shared }.setLoop loop .poll,
          [.throttled loop none])
  | hold {delay : Duration} :
      (current.shared.delay current.now).delay = .ok (some delay) →
      LoopStep poller current loop .throttle
        ({ current with shared := (current.shared.delay current.now).shared }.setLoop loop
            (.holding (current.now + delay.timer)),
          [.throttled loop (some delay)])
  | crashAsking {crash : Crash} :
      (current.shared.delay current.now).delay = .error crash →
      LoopStep poller current loop .throttle
        ({ current with shared := (current.shared.delay current.now).shared }.depart loop
          (some crash))
  | abandon {phase : LoopPhase} :
      phase.Interruptible ∨ phase = .poll → current.cancelled = true →
      LoopStep poller current loop phase (current.depart loop none)
  | wake {moment : Instant} :
      current.cancelled = false → moment ≤ current.now →
      LoopStep poller current loop (.holding moment) (current.setLoop loop .poll, [])
  | call :
      current.cancelled = false →
      LoopStep poller current loop .poll (call poller current loop ⟨current.now, 0⟩)
  | callAgain {progress : PollProgress} {moment : Instant} :
      current.cancelled = false → moment ≤ current.now →
      LoopStep poller current loop (.resting progress moment) (call poller current loop progress)
  | succeed {progress : PollProgress} {ends : Instant} {answer : PollAnswer}
      {task : Option DecisionTask} :
      current.cancelled = false → ends ≤ current.now → answer.result? = some task →
      LoopStep poller current loop (.calling progress ends answer)
        ({ current.setLoop loop (.afterPoll task) with
            shared := { current.shared with streak := .empty } },
          [.polled loop task])
  | fail {progress : PollProgress} {ends : Instant} {error : ServiceError} (consultations : Nat) :
      current.cancelled = false → ends ≤ current.now →
      current.verdict poller progress error = .giveUp →
      LoopStep poller current loop (.calling progress ends (.failure error))
        ({ current.setLoop loop .throttle with
            consultations
            shared := { current.shared with streak := current.shared.streak.failed current.now } },
          [.pollFailed loop (current.shared.streak.failed current.now).failures error])
  | rest {progress : PollProgress} {ends : Instant} {error : ServiceError} {attempt : Nat}
      {delay : Duration} (consultations : Nat) :
      current.cancelled = false → ends ≤ current.now →
      current.verdict poller progress error = .again attempt delay →
      LoopStep poller current loop (.calling progress ends (.failure error))
        ({ current.setLoop loop (.resting { progress with attempt } (current.now + delay.timer))
            with consultations },
          [.retrying loop attempt delay error])
  | crashPolling {progress : PollProgress} {ends : Instant} {answer : PollAnswer} {crash : Crash}
      (consultations : Nat) :
      current.cancelled = false → ends ≤ current.now →
      answer = .crash crash ∨ current.shared.poisoned = true ∨
        (∃ error, answer = .failure error ∧
          current.verdict poller progress error = .crashed crash) →
      LoopStep poller current loop (.calling progress ends answer)
        ({ current with consultations }.depart loop (some crash))
  | handle {task : DecisionTask} :
      current.sticky.standing ≠ .poisoned →
      LoopStep poller current loop (.received task) (handle poller current loop task)
  | crashLooking {task : DecisionTask} :
      current.sticky.standing = .poisoned →
      LoopStep poller current loop (.received task)
        (current.depart loop (some StickyCache.poison))
  | store {task : DecisionTask} {cached : Option StateName} {ends : Instant}
      {answer : HandlerAnswer} {state : StateName} (made : Nat) :
      ends ≤ current.now → answer.kept? cached current.made = some state →
      current.sticky.standing ≠ .poisoned →
      LoopStep poller current loop (.handling task cached ends answer)
        ({ current with made }.carryOut loop task answer (.put task.execution state task.taskList))
  | forget {task : DecisionTask} {cached : Option StateName} {ends : Instant}
      {answer : HandlerAnswer} :
      ends ≤ current.now → answer.kept? cached current.made = none →
      (∀ crash, answer ≠ .crash crash) → current.sticky.standing ≠ .poisoned →
      LoopStep poller current loop (.handling task cached ends answer)
        (current.carryOut loop task answer (.remove task.execution))
  | crashConcluding {task : DecisionTask} {cached : Option StateName} {ends : Instant}
      {answer : HandlerAnswer} (made : Nat) :
      ends ≤ current.now → (∀ crash, answer ≠ .crash crash) →
      current.sticky.standing = .poisoned →
      LoopStep poller current loop (.handling task cached ends answer)
        (({ current with made }.depart loop (some StickyCache.poison)).1,
          [.decided loop task answer, .departed loop (some StickyCache.poison)])
  | crashHandling {task : DecisionTask} {cached : Option StateName} {ends : Instant}
      {crash : Crash} :
      ends ≤ current.now →
      LoopStep poller current loop (.handling task cached ends (.crash crash))
        (current.depart loop (some crash))

section Inversion

variable {poller : Poller} {current : PollerState} {loop : Nat}

theorem loopStep_throttle :
    LoopStep poller current loop .throttle (current.throttle loop) := by
  simp only [throttle]
  split
  next crash asked => exact .crashAsking asked
  next asked => exact .release asked
  next delay asked => exact .hold asked

theorem loopStep_succeed {progress : PollProgress} {ends : Instant} {answer : PollAnswer}
    {task : Option DecisionTask} (going : current.cancelled = false) (due : ends ≤ current.now)
    (result : answer.result? = some task) :
    LoopStep poller current loop (.calling progress ends answer) (current.succeed loop task) := by
  simp only [PollerState.succeed, Backpressure.succeeded]
  split
  next crash unusable =>
    split at unusable
    next poisoned => exact .crashPolling current.consultations going due (.inr (.inl poisoned))
    next => cases unusable
  next shared fine =>
    split at fine
    · cases fine
    · cases fine
      cases task <;> exact .succeed going due result

theorem loopStep_callFailed {progress : PollProgress} {ends : Instant} {error : ServiceError}
    (going : current.cancelled = false) (due : ends ≤ current.now) :
    LoopStep poller current loop (.calling progress ends (.failure error))
      (callFailed poller current loop progress error) := by
  simp only [callFailed]
  split
  next givesUp =>
    simp only [PollerState.fail, Backpressure.failed]
    split
    next crash unusable =>
      split at unusable
      next poisoned => exact .crashPolling _ going due (.inr (.inl poisoned))
      next => cases unusable
    next shared fine =>
      split at fine
      · cases fine
      · cases fine
        exact .fail _ going due givesUp
  next crash crashes => exact .crashPolling _ going due (.inr (.inr ⟨error, rfl, crashes⟩))
  next attempt delay again => exact .rest _ going due again

theorem loopStep_answered {progress : PollProgress} {ends : Instant} {answer : PollAnswer}
    (going : current.cancelled = false) (due : ends ≤ current.now) :
    LoopStep poller current loop (.calling progress ends answer)
      (answered poller current loop progress answer) := by
  cases answer with
  | empty =>
      have result : PollAnswer.result? .empty = some none := rfl
      exact loopStep_succeed going due result
  | task task =>
      have result : PollAnswer.result? (.task task) = some (some task) := rfl
      exact loopStep_succeed going due result
  | failure error => exact loopStep_callFailed going due
  | crash crash => exact .crashPolling current.consultations going due (.inl rfl)

theorem loopStep_handle (task : DecisionTask) :
    LoopStep poller current loop (.received task) (handle poller current loop task) := by
  by_cases poisoned : current.sticky.standing = .poisoned
  · rw [handle_of_poisoned poisoned]
    exact .crashLooking poisoned
  · exact .handle poisoned

theorem loopStep_store {task : DecisionTask} {cached : Option StateName} {ends : Instant}
    {answer : HandlerAnswer} {state : StateName} (made : Nat) (due : ends ≤ current.now)
    (kept : answer.kept? cached current.made = some state) :
    LoopStep poller current loop (.handling task cached ends answer)
      ({ current with made }.store loop task answer state) := by
  by_cases poisoned : current.sticky.standing = .poisoned
  · have crashes : ({ current with made } : PollerState).store loop task answer state = _ :=
      takeUp_of_poisoned poisoned nofun
    rw [crashes]
    refine .crashConcluding made due ?_ poisoned
    rintro crash rfl
    cases kept
  · have stores : ({ current with made } : PollerState).store loop task answer state = _ :=
      takeUp_of_usable poisoned
    rw [stores]
    exact .store made due kept poisoned

theorem loopStep_forget {task : DecisionTask} {cached : Option StateName} {ends : Instant}
    {answer : HandlerAnswer} (due : ends ≤ current.now)
    (drops : answer.kept? cached current.made = none) (returns : ∀ crash, answer ≠ .crash crash) :
    LoopStep poller current loop (.handling task cached ends answer)
      (current.forget loop task answer) := by
  by_cases poisoned : current.sticky.standing = .poisoned
  · have crashes : current.forget loop task answer = _ := takeUp_of_poisoned poisoned nofun
    rw [crashes]
    exact .crashConcluding current.made due returns poisoned
  · rw [forget, takeUp_of_usable poisoned]
    exact .forget due drops returns poisoned

theorem loopStep_conclude {task : DecisionTask} {cached : Option StateName} {ends : Instant}
    {answer : HandlerAnswer} (due : ends ≤ current.now) :
    LoopStep poller current loop (.handling task cached ends answer)
      (current.conclude loop task cached answer) := by
  cases answer with
  | keep =>
      cases cached with
      | none => exact loopStep_store (current.made + 1) due rfl
      | some state => exact loopStep_store current.made due rfl
  | renew => exact loopStep_store (current.made + 1) due rfl
  | keepOther state => exact loopStep_store current.made due rfl
  | completed => exact loopStep_forget due rfl nofun
  | failure error => exact loopStep_forget due rfl nofun
  | crash crash => exact .crashHandling due

theorem loopStep_of_step {outcome : Outcome} (step : stepLoop poller current loop = some outcome) :
    ∃ phase, current.loops[loop]? = some phase ∧ LoopStep poller current loop phase outcome := by
  unfold stepLoop at step
  split at step
  next => cases step
  next stands =>
    cases step
    exact ⟨_, stands, loopStep_throttle⟩
  next moment stands =>
    split at step
    next cancelled =>
      cases step
      exact ⟨_, stands, .abandon (.inl trivial) cancelled⟩
    next going =>
      obtain ⟨due, same⟩ := Option.ite_none_right_eq_some.mp step
      cases same
      exact ⟨_, stands, .wake (Bool.eq_false_iff.mpr going) due⟩
  next stands =>
    split at step
    next cancelled =>
      cases step
      exact ⟨_, stands, .abandon (.inr rfl) cancelled⟩
    next going =>
      cases step
      exact ⟨_, stands, .call (Bool.eq_false_iff.mpr going)⟩
  next progress ends answer stands =>
    split at step
    next cancelled =>
      cases step
      exact ⟨_, stands, .abandon (.inl trivial) cancelled⟩
    next going =>
      obtain ⟨due, same⟩ := Option.ite_none_right_eq_some.mp step
      cases same
      exact ⟨_, stands, loopStep_answered (Bool.eq_false_iff.mpr going) due⟩
  next progress moment stands =>
    split at step
    next cancelled =>
      cases step
      exact ⟨_, stands, .abandon (.inl trivial) cancelled⟩
    next going =>
      obtain ⟨due, same⟩ := Option.ite_none_right_eq_some.mp step
      cases same
      exact ⟨_, stands, .callAgain (Bool.eq_false_iff.mpr going) due⟩
  next task stands =>
    cases step
    exact ⟨_, stands, loopStep_handle task⟩
  next task cached ends answer stands =>
    obtain ⟨due, same⟩ := Option.ite_none_right_eq_some.mp step
    cases same
    exact ⟨_, stands, loopStep_conclude due⟩
  next => cases step

end Inversion

theorem mem_perform {current : PollerState} {operation : CacheOperation StateName}
    {occurrence : Occurrence} (member : occurrence ∈ (current.perform operation).2.2) :
    ∃ effect, occurrence = .sticky (.effect effect) := by
  obtain ⟨effect, -, rfl⟩ := List.mem_map.mp member
  exact ⟨effect, rfl⟩

theorem lastWord_cases (reply : CacheReply StateName) :
    lastWord reply = .finished ∨ ∃ crash, lastWord reply = .runnerCrashed crash := by
  unfold lastWord
  split
  next crash => exact .inr ⟨crash, rfl⟩
  next => exact .inl rfl

theorem mem_cleared {current : PollerState} {occurrence : Occurrence}
    (member : occurrence ∈
      (current.perform .clear).2.2 ++ [lastWord (current.perform .clear).2.1]) :
    (∃ effect, occurrence = .sticky (.effect effect)) ∨ occurrence = .finished ∨
      ∃ crash, occurrence = .runnerCrashed crash := by
  rcases List.mem_append.mp member with performed | last
  · exact .inl (mem_perform performed)
  · rw [List.mem_singleton.mp last]
    exact .inr (lastWord_cases _)

theorem mem_decided {current : PollerState} {operation : CacheOperation StateName} {loop : Nat}
    {task : DecisionTask} {answer : HandlerAnswer} {occurrence : Occurrence}
    (member : occurrence ∈ .decided loop task answer :: (current.perform operation).2.2) :
    occurrence = .decided loop task answer ∨ ∃ effect, occurrence = .sticky (.effect effect) :=
  (List.mem_cons.mp member).imp_right mem_perform

/-- It comes from the cache, or tells that the state of an execution is discarded. -/
def FromLookup (loop : Nat) (key : ExecutionKey) (occurrence : Occurrence) : Prop :=
  (∃ effect, occurrence = .sticky (.effect effect)) ∨ occurrence = .discarded loop key

/-- Of a handed-over task only the cached state and what becomes of the cache depend on the
cache. -/
theorem handle_eq (poller : Poller) {current : PollerState}
    (usable : current.sticky.standing ≠ .poisoned) (loop : Nat) (task : DecisionTask) :
    ∃ sticky cached before,
      handle poller current loop task =
        ({ current with
            sticky
            loops := current.loops.set loop
              (.handling task cached
                (current.now + (poller.handler current.handled).latency.roundUp)
                (poller.handler current.handled).answer)
            handled := current.handled + 1 },
          before ++ [.handled loop task cached]) ∧
      ∀ occurrence ∈ before, FromLookup loop task.execution occurrence := by
  have handsOver : ∀ found, ∃ sticky cached before,
      handOver poller (current.perform (.get task.execution)).1 loop task found =
        ({ current with
            sticky
            loops := current.loops.set loop
              (.handling task cached
                (current.now + (poller.handler current.handled).latency.roundUp)
                (poller.handler current.handled).answer)
            handled := current.handled + 1 },
          before ++ [.handled loop task cached]) ∧
      ∀ occurrence ∈ before, FromLookup loop task.execution occurrence := by
    intro found
    simp only [handOver]
    split <;> refine ⟨_, _, _, rfl, ?_⟩ <;> intro occurrence member
    · rcases List.mem_cons.mp member with same | removed
      · exact .inr same
      · exact .inl (mem_perform removed)
    · cases member
  simp only [handle]
  split
  next crash crashed => exact absurd crashed (reply_of_usable usable _ crash)
  next found _ => exact handsOver found
  next => exact handsOver none

theorem mem_handle {poller : Poller} {current : PollerState}
    (usable : current.sticky.standing ≠ .poisoned) {loop : Nat} {task : DecisionTask}
    {occurrence : Occurrence} (member : occurrence ∈ (handle poller current loop task).2) :
    (∃ effect, occurrence = .sticky (.effect effect)) ∨
      occurrence = .discarded loop task.execution ∨
      ∃ cached, occurrence = .handled loop task cached := by
  obtain ⟨_, cached, before, same, quiet⟩ := handle_eq poller usable loop task
  rw [same] at member
  rcases List.mem_append.mp member with early | last
  · exact (quiet occurrence early).imp_right .inl
  · exact .inr (.inr ⟨cached, List.mem_singleton.mp last⟩)

/-- A loop moves itself and nobody else, and the clock, the token and the runner stay as they
are. It does not set its timer for the past. -/
structure MovesItself (current : PollerState) (loop : Nat) (next : LoopPhase) (outcome : Outcome) :
    Prop where
  loops : outcome.1.loops = current.loops.set loop next
  now : outcome.1.now = current.now
  cancelled : outcome.1.cancelled = current.cancelled
  runner : outcome.1.runner = current.runner
  timer : ∀ wake, timerOf next = some wake → current.now ≤ wake
  departs :
    (next = .ended ∧ ∃ crash, outcome.1.departed = current.departed ++ [crash] ∧
      .departed loop crash ∈ outcome.2) ∨
    (next ≠ .ended ∧ outcome.1.departed = current.departed)

section Frame

variable {poller : Poller} {current : PollerState} {loop : Nat} {phase : LoopPhase}
  {outcome : Outcome}

theorem LoopStep.movesItself (step : LoopStep poller current loop phase outcome) :
    ∃ next, MovesItself current loop next outcome := by
  have ahead : ∀ {time wake : Duration}, some (current.now + time) = some wake →
      current.now ≤ wake := by
    rintro time _ ⟨⟩
    exact Nat.le_add_right _ _
  cases step with
  | hold | call | callAgain | rest =>
      exact ⟨_, rfl, rfl, rfl, rfl, fun _ => ahead, .inr ⟨nofun, rfl⟩⟩
  | release | wake | fail | store | forget =>
      exact ⟨_, rfl, rfl, rfl, rfl, nofun, .inr ⟨nofun, rfl⟩⟩
  | @succeed progress ends answer task going due result =>
      refine ⟨_, rfl, rfl, rfl, rfl, ?_, .inr ⟨?_, rfl⟩⟩ <;> cases task <;> exact nofun
  | crashAsking | abandon | crashPolling | crashLooking | crashHandling =>
      exact ⟨_, rfl, rfl, rfl, rfl, nofun, .inl ⟨rfl, _, rfl, List.mem_cons_self⟩⟩
  | crashConcluding =>
      exact ⟨_, rfl, rfl, rfl, rfl, nofun,
        .inl ⟨rfl, _, rfl, List.mem_cons_of_mem _ List.mem_cons_self⟩⟩
  | @handle task usable =>
      obtain ⟨_, cached, _, same, -⟩ := handle_eq poller usable loop task
      refine ⟨.handling task cached
        (current.now + (poller.handler current.handled).latency.roundUp)
        (poller.handler current.handled).answer,
        ?_, ?_, ?_, ?_, fun _ => ahead, .inr ⟨nofun, ?_⟩⟩ <;> rw [same]

theorem LoopStep.ne_ended (step : LoopStep poller current loop phase outcome) :
    phase ≠ .ended := by
  cases step with
  | @abandon phase waits cancelled =>
      rintro rfl
      rcases waits with interruptible | polls
      · exact interruptible.elim
      · cases polls
  | _ => exact nofun

/-- A loop calls the service when it polls and when it has rested, unless the token is
cancelled. -/
theorem LoopStep.called (step : LoopStep poller current loop phase outcome) {other : Nat}
    (called : .called other ∈ outcome.2) :
    other = loop ∧ current.cancelled = false ∧
      (phase = .poll ∨ ∃ progress wake, phase = .resting progress wake) := by
  cases step with
  | call going =>
      cases List.mem_singleton.mp called
      exact ⟨rfl, going, .inl rfl⟩
  | callAgain going =>
      cases List.mem_singleton.mp called
      exact ⟨rfl, going, .inr ⟨_, _, rfl⟩⟩
  | handle usable =>
      rcases mem_handle usable called with ⟨_, same⟩ | same | ⟨_, same⟩ <;> cases same
  | store | forget => rcases mem_decided called with same | ⟨_, same⟩ <;> cases same
  | release | hold | crashAsking | abandon | wake | succeed | fail | rest | crashPolling
  | crashLooking | crashConcluding | crashHandling => simp [depart] at called

theorem LoopStep.handled (step : LoopStep poller current loop phase outcome) {other : Nat}
    {task : DecisionTask} {cached : Option StateName}
    (handled : .handled other task cached ∈ outcome.2) :
    other = loop ∧ phase = .received task ∧
      outcome = PollerState.handle poller current loop task := by
  cases step with
  | handle usable =>
      rcases mem_handle usable handled with ⟨_, same⟩ | same | ⟨_, same⟩
      · cases same
      · cases same
      · cases same
        exact ⟨rfl, rfl, rfl⟩
  | store | forget => rcases mem_decided handled with same | ⟨_, same⟩ <;> cases same
  | release | hold | crashAsking | abandon | wake | call | callAgain | succeed | fail | rest
  | crashPolling | crashLooking | crashConcluding | crashHandling =>
      simp [depart, PollerState.call] at handled

end Frame

structure MovesAside (current : PollerState) (loop : Nat) (outcome : Outcome) : Prop where
  sticky : outcome.1.sticky = current.sticky
  loops : ∃ phase, outcome.1.loops = current.loops.set loop phase ∧ phase.held? = none
  happened : ∀ occurrence ∈ outcome.2, occurrence.Aside

/-- What the moves of a loop mean for a cache that can be used, and for the handlers. -/
inductive LoopMoves (poller : Poller) (current : PollerState) (loop : Nat) : Outcome → Prop where
  | aside {outcome : Outcome} : MovesAside current loop outcome →
      LoopMoves poller current loop outcome
  | handle {task : DecisionTask} : current.loops[loop]? = some (.received task) →
      LoopMoves poller current loop (handle poller current loop task)
  | store {task : DecisionTask} {cached : Option StateName} {ends : Instant}
      {answer : HandlerAnswer} {state : StateName} (made : Nat) :
      current.loops[loop]? = some (.handling task cached ends answer) → ends ≤ current.now →
      answer.kept? cached current.made = some state →
      LoopMoves poller current loop
        ({ current with made }.carryOut loop task answer (.put task.execution state task.taskList))
  | forget {task : DecisionTask} {cached : Option StateName} {ends : Instant}
      {answer : HandlerAnswer} :
      current.loops[loop]? = some (.handling task cached ends answer) → ends ≤ current.now →
      answer.kept? cached current.made = none →
      LoopMoves poller current loop (current.carryOut loop task answer (.remove task.execution))

section Handlers

variable {poller : Poller} {current : PollerState} {loop : Nat} {outcome : Outcome}

theorem LoopStep.loopMoves {phase : LoopPhase} (usable : current.sticky.standing ≠ .poisoned)
    (stands : current.loops[loop]? = some phase)
    (step : LoopStep poller current loop phase outcome) :
    LoopMoves poller current loop outcome := by
  cases step with
  | handle => exact .handle stands
  | crashLooking poisoned | crashConcluding _ _ _ poisoned => exact absurd poisoned usable
  | store made due kept => exact .store made stands due kept
  | forget due drops => exact .forget stands due drops
  | @succeed _ _ _ task =>
      exact .aside ⟨rfl, ⟨_, rfl, by cases task <;> rfl⟩, by simp [Occurrence.Aside]⟩
  | release | hold | crashAsking | abandon | wake | call | callAgain | fail | rest | crashPolling
  | crashHandling =>
      exact .aside ⟨rfl, ⟨_, rfl, rfl⟩, by simp [depart, PollerState.call, Occurrence.Aside]⟩

theorem loopMoves_of_step (usable : current.sticky.standing ≠ .poisoned)
    (step : stepLoop poller current loop = some outcome) :
    LoopMoves poller current loop outcome := by
  obtain ⟨phase, stands, moves⟩ := loopStep_of_step step
  exact moves.loopMoves usable stands

end Handlers

end PollerState

end DecisionWorker
