import DecisionWorker.Proofs.Poller.Waits

set_option autoImplicit false

/-!
When the calls of the handler end.

A call that begins takes the time that the handler takes for it, and nobody cuts it short:
`handlerEnds` reads the ends of all calls from a trace. `Working` ties them to the loops: a call
that has not ended keeps its loop busy.
-/

namespace DecisionWorker

def Occurrence.handsOver : Occurrence → Bool
  | .handled _ _ _ => true
  | _ => false

def handlerCalls (past : Trace) : Trace := past.filter fun happened => happened.2.handsOver

/-- When the calls of the handler in a trace end, in the order in which they begin. -/
def handlerEnds (poller : Poller) (past : Trace) : List Instant :=
  (handlerCalls past).mapIdx fun number call =>
    call.1 + (poller.handler number).latency.roundUp

def latest (moment : Instant) (others : List Instant) : Instant := others.foldl max moment

def LoopPhase.handlerEnd? : LoopPhase → Option Instant
  | .handling _ _ ends _ => some ends
  | _ => none

namespace PollerState

structure Working (poller : Poller) (current : PollerState) (past : Trace) : Prop where
  count : current.handled = (handlerCalls past).length
  busy : ∀ {ends}, ends ∈ handlerEnds poller past → ends ≤ current.now ∨
    ∃ (loop : Nat) (phase : LoopPhase),
      current.loops[loop]? = some phase ∧ phase.handlerEnd? = some ends
  begun : ∀ {loop : Nat} {phase : LoopPhase} {ends : Instant},
    current.loops[loop]? = some phase → phase.handlerEnd? = some ends →
      ends ∈ handlerEnds poller past

section Working

variable {poller : Poller} {current : PollerState} {past : Trace}

theorem handlerCalls_append_of_silent {more : Trace}
    (silent : ∀ happened ∈ more, happened.2.handsOver = false) :
    handlerCalls (past ++ more) = handlerCalls past := by
  have nothing : handlerCalls more = [] := by
    apply List.filter_eq_nil_iff.mpr
    intro call member
    rw [silent call member]
    exact Bool.false_ne_true
  rw [handlerCalls, List.filter_append, ← handlerCalls, ← handlerCalls, nothing, List.append_nil]

theorem handlerCalls_of_silent {now : Instant} {happened : List Occurrence}
    (silent : ∀ occurrence ∈ happened, occurrence.handsOver = false) :
    handlerCalls (past ++ stamp now happened) = handlerCalls past := by
  apply handlerCalls_append_of_silent
  intro call member
  obtain ⟨occurrence, inHappened, rfl⟩ := List.mem_map.mp member
  exact silent occurrence inHappened

theorem handsOver_perform {operation : CacheOperation StateName} :
    ∀ occurrence ∈ (current.perform operation).2.2, occurrence.handsOver = false := by
  intro occurrence member
  obtain ⟨_, rfl⟩ := mem_perform member
  rfl

structure Calls (poller : Poller) (current : PollerState) (past : Trace) (loop : Nat)
    (task : DecisionTask) (cached : Option StateName) (outcome : Outcome) : Prop where
  now : outcome.1.now = current.now
  handled : outcome.1.handled = current.handled + 1
  loops : outcome.1.loops = current.loops.set loop
    (.handling task cached (current.now + (poller.handler current.handled).latency.roundUp)
      (poller.handler current.handled).answer)
  calls : handlerCalls (past ++ stamp current.now outcome.2) =
    handlerCalls past ++ [(current.now, .handled loop task cached)]

theorem exists_calls (poller : Poller) {current : PollerState}
    (usable : current.sticky.standing ≠ .poisoned) (past : Trace) (loop : Nat)
    (task : DecisionTask) :
    ∃ cached, Calls poller current past loop task cached (handle poller current loop task) := by
  obtain ⟨_, cached, before, same, quiet⟩ := handle_eq poller usable loop task
  have silent : ∀ occurrence ∈ before, occurrence.handsOver = false := by
    intro occurrence member
    rcases quiet occurrence member with ⟨_, rfl⟩ | rfl <;> rfl
  rw [same]
  refine ⟨cached, rfl, rfl, rfl, ?_⟩
  rw [stamp, List.map_append, ← stamp, ← List.append_assoc, handlerCalls, List.filter_append,
    ← handlerCalls, handlerCalls_of_silent silent]
  rfl

theorem handlerEnds_concat {call : Instant × Occurrence} {more : Trace}
    (calls : handlerCalls more = handlerCalls past ++ [call]) :
    handlerEnds poller more = handlerEnds poller past ++
      [call.1 + (poller.handler (handlerCalls past).length).latency.roundUp] := by
  rw [handlerEnds, calls, List.mapIdx_append, ← handlerEnds]
  simp

/-- A move of a loop that does not call the handler: if a call was under way, it has ended. -/
structure Passes (current : PollerState) (loop : Nat) (phase : LoopPhase) (outcome : Outcome) :
    Prop where
  silent : ∀ occurrence ∈ outcome.2, occurrence.handsOver = false
  handled : outcome.1.handled = current.handled
  moved : ∃ next : LoopPhase,
    outcome.1.loops = current.loops.set loop next ∧ next.handlerEnd? = none
  reached : ∀ {ends}, phase.handlerEnd? = some ends → ends ≤ current.now

theorem LoopStep.calls_or_passes {loop : Nat} {phase : LoopPhase} {outcome : Outcome}
    (step : LoopStep poller current loop phase outcome) :
    (∃ task, phase = .received task ∧ current.sticky.standing ≠ .poisoned ∧
        outcome = PollerState.handle poller current loop task) ∨
      Passes current loop phase outcome := by
  have idle : ∀ {moment : Instant}, none = some moment → moment ≤ current.now := nofun
  have ended : ∀ {due moment : Instant}, due ≤ current.now → some due = some moment →
      moment ≤ current.now := by
    rintro due _ reached ⟨⟩
    exact reached
  cases step with
  | handle usable => exact .inl ⟨_, rfl, usable, rfl⟩
  | release | hold | crashAsking | wake | call | callAgain | fail | rest | crashPolling
  | crashLooking =>
      exact .inr ⟨by simp [depart, PollerState.call, Occurrence.handsOver], rfl,
        ⟨_, rfl, rfl⟩, idle⟩
  | @succeed _ _ _ task =>
      exact .inr ⟨by simp [Occurrence.handsOver], rfl, ⟨_, rfl, by cases task <;> rfl⟩, idle⟩
  | @abandon phase waits =>
      refine .inr ⟨by simp [depart, Occurrence.handsOver], rfl, ⟨_, rfl, rfl⟩, ?_⟩
      cases phase with
      | handling => rcases waits with interruptible | polls <;> cases ‹_›
      | throttle | holding | poll | calling | resting | received | ended => exact idle
  | store _ due | forget due =>
      refine .inr ⟨?_, rfl, ⟨_, rfl, rfl⟩, ended due⟩
      intro occurrence member
      rcases mem_decided member with rfl | ⟨_, rfl⟩ <;> rfl
  | crashConcluding _ due | crashHandling due =>
      exact .inr ⟨by simp [depart, Occurrence.handsOver], rfl, ⟨_, rfl, rfl⟩, ended due⟩

theorem Working.call (working : Working poller current past) {loop : Nat} {task : DecisionTask}
    {cached : Option StateName} {outcome : Outcome}
    (received : current.loops[loop]? = some (.received task))
    (calls : Calls poller current past loop task cached outcome) :
    Working poller outcome.1 (past ++ stamp current.now outcome.2) := by
  have inside : loop < current.loops.length := (List.getElem?_eq_some_iff.mp received).1
  have ends := @handlerEnds_concat poller past _ _ calls.calls
  rw [← working.count] at ends
  refine ⟨?_, ?_, ?_⟩
  · rw [calls.handled, calls.calls, List.length_append, working.count]
    rfl
  · intro moment member
    rw [ends] at member
    rw [calls.now, calls.loops]
    rcases List.mem_append.mp member with earlier | last
    · refine (working.busy earlier).imp_right ?_
      rintro ⟨other, phase, stands, handles⟩
      have unlike : loop ≠ other := by
        rintro rfl
        cases received.symm.trans stands
        cases handles
      exact ⟨other, phase, (List.getElem?_set_ne unlike).trans stands, handles⟩
    · rw [List.mem_singleton.mp last]
      exact .inr ⟨loop, _, List.getElem?_set_self inside, rfl⟩
  · intro other phase moment stands handles
    rw [calls.loops] at stands
    rw [ends]
    rcases getElem?_set_cases stands with ⟨-, rfl⟩ | ⟨-, before⟩
    · cases handles
      exact List.mem_append_right _ (List.mem_singleton_self _)
    · exact List.mem_append_left _ (working.begun before handles)

theorem Working.pass (working : Working poller current past) {loop : Nat} {phase : LoopPhase}
    {outcome : Outcome} (stands : current.loops[loop]? = some phase)
    (passes : Passes current loop phase outcome) (now : outcome.1.now = current.now) :
    Working poller outcome.1 (past ++ stamp current.now outcome.2) := by
  have same := @handlerCalls_of_silent past current.now _ passes.silent
  obtain ⟨next, loops, leaves⟩ := passes.moved
  refine ⟨?_, ?_, ?_⟩
  · rw [passes.handled, same, working.count]
  · intro moment member
    rw [handlerEnds, same] at member
    rw [now, loops]
    rcases working.busy member with reached | ⟨other, standing, here, handles⟩
    · exact .inl reached
    -- The loop that moves has seen the end of its own call; the others stay at work.
    · by_cases own : loop = other
      · subst own
        cases stands.symm.trans here
        exact .inl (passes.reached handles)
      · exact .inr ⟨other, standing, (List.getElem?_set_ne own).trans here, handles⟩
  · intro other standing moment here handles
    rw [handlerEnds, same]
    rw [loops] at here
    rcases getElem?_set_cases here with ⟨-, rfl⟩ | ⟨-, before⟩
    · cases leaves.symm.trans handles
    · exact working.begun before handles

theorem Working.other (working : Working poller current past) {next : PollerState}
    {happened : List Occurrence} (silent : ∀ occurrence ∈ happened, occurrence.handsOver = false)
    (handled : next.handled = current.handled) (later : current.now ≤ next.now)
    (loops : ∀ {loop : Nat} {phase : LoopPhase} {ends : Instant}, phase.handlerEnd? = some ends →
      (next.loops[loop]? = some phase ↔ current.loops[loop]? = some phase)) :
    Working poller next (past ++ stamp current.now happened) := by
  have same := @handlerCalls_of_silent past current.now _ silent
  refine ⟨by rw [handled, same, working.count], ?_, ?_⟩
  · intro moment member
    rw [handlerEnds, same] at member
    rcases working.busy member with reached | ⟨loop, phase, stands, handles⟩
    · exact .inl (Nat.le_trans reached later)
    · exact .inr ⟨loop, phase, (loops handles).mpr stands, handles⟩
  · intro loop phase moment stands handles
    rw [handlerEnds, same]
    exact working.begun ((loops handles).mp stands) handles

theorem Working.next (rostered : Rostered poller current) (working : Working poller current past)
    {move : CompanyMove} {outcome : Outcome} (happens : Happens poller current move outcome) :
    Working poller outcome.1 (past ++ stamp current.now outcome.2) := by
  have later := happens.now_le
  cases happens with
  | @loop index phase _ stands step =>
      rcases step.calls_or_passes with ⟨task, rfl, usable, rfl⟩ | passes
      · obtain ⟨cached, calls⟩ := exists_calls poller usable past index task
        exact working.call stands calls
      · obtain ⟨next, moves⟩ := step.movesItself
        exact working.pass stands passes moves.now
  | begins idle =>
      refine working.other (by simp [Occurrence.handsOver]) rfl later ?_
      intro loop phase ends handles
      rw [(rostered.idle idle).1, List.getElem?_replicate]
      have unlike : LoopPhase.throttle ≠ phase := by
        rintro rfl
        cases handles
      split <;> simp [unlike]
  | dispatches | cancels | passes | waits =>
      exact working.other (by simp [PollerState.cancel, Occurrence.handsOver]) rfl later
        fun _ => Iff.rfl
  | joins =>
      refine working.other ?_ rfl later fun _ => Iff.rfl
      intro occurrence member
      obtain ⟨_, -, rfl⟩ := List.mem_map.mp member
      rfl
  | finishes =>
      refine working.other ?_ rfl later fun _ => Iff.rfl
      intro occurrence member
      rcases mem_cleared member with ⟨_, rfl⟩ | rfl | ⟨_, rfl⟩ <;> rfl
  | visits => exact working.other handsOver_perform rfl later fun _ => Iff.rfl

/-- Nobody but a loop that has received a task calls the handler. -/
theorem Happens.silent {move : CompanyMove} {outcome : Outcome}
    (happens : Happens poller current move outcome)
    (nobody : ∀ (loop : Nat) (task : DecisionTask), current.loops[loop]? ≠ some (.received task)) :
    ∀ occurrence ∈ outcome.2, occurrence.handsOver = false := by
  intro occurrence member
  cases occurrence with
  | handled loop task cached => exact absurd (happens.handled member).2.1 (nobody loop task)
  | sticky | started | cancelled | throttled | called | retrying | polled | pollFailed | discarded
  | decided | departed | crashNoticed | finished | runnerCrashed => rfl

end Working

end PollerState

end DecisionWorker
