import DecisionWorker.Proofs.Sticky.Notices
import DecisionWorker.Sticky.Log
import Mathlib.Data.List.Infix

set_option autoImplicit false

/-!
Every eviction passes through the dispatcher once, in the order of the evictions.

`victims` collects, from the replies alone, the entries that made room in the course of a
run. The main statement is an account of them that holds at every moment: first come those
that are finished, then the one in flight, then those that wait in the queue.
-/

namespace DecisionWorker

variable {State : Type}

inductive Reports (timeout : Duration) : DispatchStep → Event → Prop where
  | skipped (eviction : Eviction) :
      Reports timeout (.skipped eviction)
        (.say .debug "skipping sticky reset, the execution was cached again"
          [("execution", .text eviction.key.text),
            ("generation", .integer eviction.generation)])
  | succeeded (eviction : Eviction) :
      Reports timeout (.ended eviction (.answered .success))
        (.say .debug "reset sticky execution"
          [("execution", .text eviction.key.text), ("task_list", .text eviction.taskList)])
  | failed (eviction : Eviction) (error : ServiceError) :
      Reports timeout (.ended eviction (.answered (.failure error)))
        (.say .warn ("cannot reset sticky execution: " ++ error.text)
          [("execution", .text eviction.key.text), ("task_list", .text eviction.taskList)])
  | timedOut (eviction : Eviction) :
      Reports timeout (.ended eviction .timedOut)
        (.say .warn "cannot reset sticky execution: the call timed out"
          [("execution", .text eviction.key.text), ("task_list", .text eviction.taskList),
            ("timeout", .text timeout.text)])

namespace DispatchStep

def finishing (steps : List DispatchStep) : List DispatchStep :=
  steps.filter fun step => step.finished?.isSome

def reports (timeout : Duration) (steps : List DispatchStep) : List Event :=
  (steps.filter fun step => decide (step ≠ .stopped)).filterMap (event? timeout)

theorem forall₂_reports {timeout : Duration} {steps : List DispatchStep}
    (calm : ∀ eviction, .ended eviction (.answered .crash) ∉ steps) :
    List.Forall₂ (Reports timeout) (finishing steps) (reports timeout steps) := by
  induction steps with
  | nil => exact .nil
  | cons step steps inductionHypothesis =>
      have rest := inductionHypothesis fun eviction inRest =>
        calm eviction (List.mem_cons_of_mem _ inRest)
      cases step with
      | skipped eviction => exact .cons (.skipped eviction) rest
      | checked eviction => exact rest
      | called eviction => exact rest
      | stopped => exact rest
      | ended eviction ending =>
          rcases ending with answer | _
          · cases answer with
            | success => exact .cons (.succeeded eviction) rest
            | failure error => exact .cons (.failed eviction error) rest
            | crash => exact absurd List.mem_cons_self (calm eviction)
          · exact .cons (.timedOut eviction) rest

/-- Calls never overlap: whenever one begins, all earlier ones have ended. -/
def SingleFile (steps : List DispatchStep) : Prop :=
  ∀ earlier, earlier <+: steps → ∃ flying : List Eviction,
    flying.length ≤ 1 ∧ earlier.filterMap called? = earlier.filterMap ended? ++ flying

theorem called_sublist_started (steps : List DispatchStep) :
    (steps.filterMap called?).Sublist (steps.filterMap started?) := by
  induction steps with
  | nil => exact .slnil
  | cons step steps inductionHypothesis =>
      cases step with
      | skipped eviction => exact inductionHypothesis.cons eviction
      | checked eviction => exact inductionHypothesis
      | called eviction => exact inductionHypothesis.cons_cons eviction
      | ended eviction ending => exact inductionHypothesis
      | stopped => exact inductionHypothesis

end DispatchStep

namespace StickyMoment

open DispatchStep

/-- The account of all notices at a moment, given the trace up to it. -/
structure Pipelined (moment : StickyMoment State) (trace : StickyTrace State) : Prop where
  healthy : moment.sticky.Healthy
  account : queuedIn trace =
    (stepsIn trace).filterMap finished? ++ moment.sticky.dispatcher.inFlight ++
      moment.sticky.dispatcher.queue
  started : (stepsIn trace).filterMap started? =
    (stepsIn trace).filterMap finished? ++ moment.sticky.dispatcher.calling
  checked : (stepsIn trace).filterMap checked? =
    (stepsIn trace).filterMap called? ++ moment.sticky.dispatcher.checked
  called : (stepsIn trace).filterMap called? =
    (stepsIn trace).filterMap ended? ++ moment.sticky.dispatcher.calling
  singleFile : SingleFile (stepsIn trace)
  calm : ∀ eviction, .ended eviction (.answered .crash) ∉ stepsIn trace

theorem pipelined_start {sticky : StickyCache State} (healthy : sticky.Healthy)
    (fresh : sticky.dispatcher = .start) : Pipelined (start sticky) [] where
  healthy := healthy
  account := by simp only [start, fresh]; rfl
  started := by simp only [start, fresh]; rfl
  checked := by simp only [start, fresh]; rfl
  called := by simp only [start, fresh]; rfl
  singleFile earlier isPrefix := by
    rw [List.prefix_nil.mp isPrefix]
    exact ⟨[], Nat.zero_le _, rfl⟩
  calm := by simp [stepsIn]

theorem Pipelined.enqueue {moment : StickyMoment State} {trace : StickyTrace State}
    (pipelined : Pipelined moment trace) {next : StickyMoment State}
    {effects : StickyTrace State} (healthy : next.sticky.Healthy)
    (idle : stepsIn effects = [])
    (queued : next.sticky.dispatcher =
      StickyCache.queued moment.sticky.dispatcher (queuedIn effects)) :
    Pipelined next (trace ++ effects) where
  healthy := healthy
  account := by simp [idle, queued, pipelined.account]
  started := by simp [idle, queued, pipelined.started]
  checked := by simp [idle, queued, pipelined.checked]
  called := by simp [idle, queued, pipelined.called]
  singleFile := by simpa [idle] using pipelined.singleFile
  calm := by simpa [idle] using pipelined.calm

theorem filterMap_concat {Notice : Type} (read : DispatchStep → Option Notice)
    (steps : List DispatchStep) (step : DispatchStep) :
    (steps ++ [step]).filterMap read = steps.filterMap read ++ (read step).toList := by
  rw [List.filterMap_append]
  cases found : read step <;> simp [found]

theorem singleFile_concat {steps : List DispatchStep} {step : DispatchStep}
    (singleFile : SingleFile steps) {dispatcher : Dispatcher}
    (called : (steps ++ [step]).filterMap called? =
      (steps ++ [step]).filterMap ended? ++ dispatcher.calling) :
    SingleFile (steps ++ [step]) := by
  intro earlier isPrefix
  rcases List.prefix_concat_iff.mp isPrefix with rfl | inSteps
  · exact ⟨dispatcher.calling, dispatcher.length_calling_le, called⟩
  · exact singleFile earlier inSteps

theorem Pipelined.dispatch {service : ResetService} (calm : service.NeverCrashes)
    {now : Instant} {standing : Standing State} {dispatcher next : Dispatcher}
    {happened : DispatchStep} {trace : StickyTrace State}
    (pipelined : Pipelined ⟨now, standing, dispatcher⟩ trace)
    (moved : Dispatcher.Moves service standing.view now dispatcher next happened) :
    Pipelined ⟨now, standing, next⟩ (trace ++ [(now, .dispatched happened)]) := by
  have healthy := pipelined.healthy.dispatch calm moved
  have account := pipelined.account
  have started := pipelined.started
  have checked := pipelined.checked
  have called := pipelined.called
  simp only at account started checked called
  have calledNext : (stepsIn trace ++ [happened]).filterMap called? =
      (stepsIn trace ++ [happened]).filterMap ended? ++ next.calling := by
    rw [filterMap_concat, filterMap_concat, called, List.append_assoc, moved.called,
      List.append_assoc]
  refine ⟨healthy, ?_, ?_, ?_, ?_, ?_, ?_⟩
  · simp only [queuedIn_append, queuedIn_dispatched, stepsIn_append, stepsIn_dispatched,
      filterMap_concat, List.append_nil]
    rw [account, List.append_assoc, moved.account healthy.alive]
    simp only [List.append_assoc]
  · simp only [stepsIn_append, stepsIn_dispatched, filterMap_concat]
    rw [started, List.append_assoc, moved.started, List.append_assoc]
  · simp only [stepsIn_append, stepsIn_dispatched, filterMap_concat]
    rw [checked, List.append_assoc, moved.checked, List.append_assoc]
  · simpa only [stepsIn_append, stepsIn_dispatched] using calledNext
  · simpa only [stepsIn_append, stepsIn_dispatched] using
      singleFile_concat pipelined.singleFile calledNext
  · intro eviction
    simp only [stepsIn_append, stepsIn_dispatched, List.mem_append, List.mem_singleton, not_or]
    refine ⟨pipelined.calm eviction, ?_⟩
    rintro rfl
    -- A call that crashes would leave a crashed dispatcher behind.
    cases moved with
    | finish due answered => exact answered rfl
    | crash due => exact healthy.alive rfl

/-- A notice whose turn has come is skipped if it is stale, and goes on to its call if it is
not. -/
def Judged (sticky : StickyCache State) : StickyEvent State → Prop
  | .dispatched (.skipped eviction) => sticky.stale eviction = true
  | .dispatched (.checked eviction) => sticky.stale eviction = false
  | _ => True

theorem keptInBackground_judged (service : ResetService) (sticky : StickyCache State) :
    KeptInBackground service fun (moment : StickyMoment State) trace =>
      moment.sticky.standing = sticky.standing ∧ ∀ event ∈ trace, Judged sticky event.2 where
  dispatch {now standing _ _ happened trace} judged moved := by
    obtain ⟨same, earlier⟩ := judged
    simp only at same
    subst same
    refine ⟨rfl, ?_⟩
    intro event member
    rcases List.mem_append.mp member with inTrace | last
    · exact earlier event inTrace
    · rw [List.mem_singleton.mp last]
      cases moved with
      | skip stale => exact stale
      | check fresh => exact fresh
      | call | finish | crash | stop => trivial
  pass judged _ := judged

variable [DecidableEq State]

theorem kept_pipelined {service : ResetService} (calm : service.NeverCrashes) :
    Kept service (Pipelined : StickyMoment State → StickyTrace State → Prop) where
  dispatch pipelined moved := pipelined.dispatch calm moved
  pass pipelined _ := ⟨pipelined.healthy, pipelined.account, pipelined.started,
    pipelined.checked, pipelined.called, pipelined.singleFile, pipelined.calm⟩
  operate {moment _} operation pipelined := by
    refine pipelined.enqueue (pipelined.healthy.perform operation) ?_ ?_
    · exact stepsIn_effects _ _
    · simp only [move, operated, queuedIn_effects]
      exact StickyCache.dispatcher_perform pipelined.healthy operation
  crashInserting {moment _} crash pipelined := by
    obtain ⟨effects, same⟩ := moment.sticky.effects_crashInserting crash
    have healthy := move_healthy calm pipelined.healthy (.crashInserting crash)
    refine pipelined.enqueue healthy ?_ ?_
    · exact stepsIn_effects _ _
    · simp [move, operated, effects, same, queuedIn, StickyCache.queued]
  drop {moment _} pipelined := by
    have healthy := move_healthy calm pipelined.healthy .drop
    refine pipelined.enqueue healthy ?_ ?_
    · exact stepsIn_effects _ _
    · simp only [move, operated, queuedIn_effects, StickyCache.queued_drop]
      simp [StickyCache.drop, StickyCache.queued]

def victim? (moment : StickyMoment State) : StickyMove State → Option Eviction
  | .operate operation =>
      let reply := (moment.sticky.perform operation).reply
      (reply.evictedKey?.bind moment.sticky.cached?).map Entry.eviction
  | _ => none

def victims (service : ResetService) (moment : StickyMoment State) :
    List (StickyMove State) → List Eviction
  | [] => []
  | first :: rest =>
      (moment.victim? first).toList ++ victims service (moment.move service first).after rest

theorem queuedIn_move_of_background {service : ResetService} (moment : StickyMoment State)
    {move : StickyMove State} (background : move.Background) :
    queuedIn (moment.move service move).trace = [] :=
  filterMap_of_background (fun _ _ => rfl) service moment background

theorem queuedIn_move {service : ResetService} {moment : StickyMoment State}
    (healthy : moment.sticky.Healthy) (move : StickyMove State) :
    queuedIn (moment.move service move).trace = (moment.victim? move).toList := by
  cases move with
  | operate operation =>
      simp only [StickyMoment.move, operated, queuedIn_effects, victim?]
      exact StickyCache.queued_perform healthy operation
  | crashInserting crash =>
      have silent := (moment.sticky.effects_crashInserting crash).1
      simp [StickyMoment.move, operated, silent, victim?, queuedIn]
  | drop =>
      simp only [StickyMoment.move, operated, queuedIn_effects, StickyCache.queued_drop]
      rfl
  | dispatch | pass | settle | advance =>
      exact queuedIn_move_of_background moment trivial

theorem queuedIn_run {service : ResetService} (calm : service.NeverCrashes)
    {moment : StickyMoment State} (healthy : moment.sticky.Healthy)
    (moves : List (StickyMove State)) :
    queuedIn (moment.run service moves).2 = moment.victims service moves := by
  induction moves generalizing moment with
  | nil => rfl
  | cons first rest inductionHypothesis =>
      have next := move_healthy calm healthy first
      simp only [run, victims, queuedIn_append, queuedIn_move healthy, inductionHypothesis next]

theorem judged_move_of_background (service : ResetService) (moment : StickyMoment State)
    {move : StickyMove State} (background : move.Background) :
    ∀ event ∈ (moment.move service move).trace, Judged moment.sticky event.2 := by
  have before : moment.sticky.standing = moment.sticky.standing ∧
      ∀ event ∈ ([] : StickyTrace State), Judged moment.sticky event.2 := ⟨rfl, nofun⟩
  exact ((keptInBackground_judged service moment.sticky).move before background).2

theorem judged_move (service : ResetService) (moment : StickyMoment State)
    (move : StickyMove State) :
    ∀ event ∈ (moment.move service move).trace, Judged moment.sticky event.2 := by
  cases move with
  | operate | crashInserting | drop =>
      intro event member
      obtain ⟨effect, -, rfl⟩ := List.mem_map.mp member
      trivial
  | dispatch | pass | settle | advance =>
      exact judged_move_of_background service moment trivial

/-- Each eviction is handled once, in its turn: skipped if it is stale by then, or called
about once before the next one is looked at. -/
theorem evictions_handled_in_order {service : ResetService} (calm : service.NeverCrashes)
    {capacity : Nat} {runtime : Bool} {sticky : StickyCache State}
    (created : StickyCache.create capacity service.timeout runtime = .ok sticky)
    (moves : List (StickyMove State)) :
    let reached := (start sticky).run service moves
    let victims := (start sticky).victims service moves
    let dispatcher := reached.1.sticky.dispatcher
    let steps := stepsIn reached.2
    let queuedBy := fun operation =>
      (reached.1.sticky.perform operation).effects.filterMap CacheEffect.queued?
    victims = steps.filterMap finished? ++ dispatcher.inFlight ++ dispatcher.queue ∧
    steps.filterMap started? = steps.filterMap finished? ++ dispatcher.calling ∧
    steps.filterMap checked? = steps.filterMap called? ++ dispatcher.checked ∧
    (∀ move, ∀ event ∈ (reached.1.move service move).trace, Judged reached.1.sticky event.2) ∧
    (steps.filterMap called?).Sublist victims ∧
    SingleFile steps ∧
    queuedIn reached.2 = victims ∧
    (∀ key, queuedBy (.remove key) = []) ∧
    (∀ key state taskList, (reached.1.sticky.cached? key).isSome →
      queuedBy (.put key state taskList) = []) ∧
    queuedBy .clear = [] ∧
    List.Forall₂ (Reports service.timeout) (finishing steps) (reports service.timeout steps) := by
  intro reached victims dispatcher steps queuedBy
  have healthy := StickyCache.healthy_of_create created
  have fresh : sticky.dispatcher = .start := by rw [(StickyCache.eq_of_create created).2]
  have pipelined : Pipelined reached.1 reached.2 :=
    (kept_pipelined calm).run (pipelined_start healthy fresh) moves
  have queued : queuedIn reached.2 = victims := queuedIn_run calm healthy moves
  have account : victims = _ := queued.symm.trans pipelined.account
  refine ⟨account, pipelined.started, pipelined.checked, judged_move service reached.1, ?_,
    pipelined.singleFile, queued, ?_, ?_, ?_, forall₂_reports pipelined.calm⟩
  · apply (called_sublist_started steps).trans
    rw [account, pipelined.started, List.append_assoc]
    apply List.Sublist.append_left
    exact (List.sublist_append_right _ _).trans (List.sublist_append_left _ _)
  · intro key
    have none := reached.1.sticky.evictedKey?_perform (.remove key) nofun
    simp [queuedBy, StickyCache.queued_perform pipelined.healthy, none]
  · intro key state taskList cached
    have none := StickyCache.evictedKey?_perform_put cached state taskList
    simp [queuedBy, StickyCache.queued_perform pipelined.healthy, none]
  · have none := reached.1.sticky.evictedKey?_perform .clear nofun
    simp [queuedBy, StickyCache.queued_perform pipelined.healthy, none]

/-- One notice is skipped, one is being called about, and one waits. -/
theorem evictions_handled_in_order_when_recached :
    let first : ExecutionKey := ⟨"first", "run", by decide, by decide⟩
    let second : ExecutionKey := ⟨"second", "run", by decide, by decide⟩
    let silent : ResetService := ⟨.ofSeconds 10, fun _ => ⟨none, .success⟩⟩
    let sticky : StickyCache Nat := ⟨.live (.empty 1), .start⟩
    let moves : List (StickyMove Nat) :=
      [.operate (.put first 1 "tasks"), .operate (.put second 2 "tasks"),
        .operate (.put first 3 "tasks"), .settle, .operate (.put second 4 "tasks")]
    silent.NeverCrashes ∧ StickyCache.create 1 silent.timeout true = .ok sticky ∧
      (start sticky).victims silent moves =
        [⟨first, "tasks", 1⟩] ++ [⟨second, "tasks", 2⟩] ++ [⟨first, "tasks", 3⟩] := by
  intro first second silent sticky moves
  have calm : silent.NeverCrashes := fun _ => nofun
  have created : StickyCache.create 1 silent.timeout true = .ok sticky := by rfl
  have general := evictions_handled_in_order calm created moves
  refine ⟨calm, created, general.1.trans ?_⟩
  decide +kernel

end StickyMoment

end DecisionWorker
