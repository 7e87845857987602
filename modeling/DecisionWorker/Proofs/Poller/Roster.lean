import DecisionWorker.Proofs.Poller.Company

set_option autoImplicit false

/-!
The loops that a runner has to wait for.

A runner keeps a number of loops that it waits for. `Rostered` says that it is right: those
loops have not ended yet, or have ended without the runner having noticed. So a runner that has
finished leaves no loop behind, and one that has not can move or has a loop to wait for.
-/

namespace DecisionWorker

def LoopPhase.ongoing : LoopPhase → Bool
  | .ended => false
  | _ => true

theorem LoopPhase.ongoing_iff {phase : LoopPhase} : phase.ongoing = true ↔ phase ≠ .ended := by
  cases phase <;> simp [ongoing]

namespace PollerState

def going (loops : List LoopPhase) : Nat := loops.countP LoopPhase.ongoing

theorem getElem?_set_cases {loops : List LoopPhase} {index other : Nat} {next phase : LoopPhase}
    (stands : (loops.set index next)[other]? = some phase) :
    (other = index ∧ phase = next) ∨ (other ≠ index ∧ loops[other]? = some phase) := by
  rw [List.getElem?_set] at stands
  split at stands
  next same =>
    split at stands
    next =>
      cases stands
      exact .inl ⟨same.symm, rfl⟩
    next => cases stands
  next unlike => exact .inr ⟨Ne.symm unlike, stands⟩

theorem going_set {loops : List LoopPhase} {index : Nat} {phase : LoopPhase}
    (stands : loops[index]? = some phase) (here : phase ≠ .ended) (next : LoopPhase) :
    going (loops.set index next) + (if next = .ended then 1 else 0) = going loops := by
  obtain ⟨inside, same⟩ := List.getElem?_eq_some_iff.mp stands
  have ongoing : phase.ongoing = true := LoopPhase.ongoing_iff.mpr here
  have counted : 0 < going loops :=
    List.countP_pos_iff.mpr ⟨phase, List.mem_of_getElem? stands, ongoing⟩
  unfold going at counted ⊢
  rw [List.countP_set inside, same, if_pos ongoing]
  by_cases ends : next = .ended
  · simp only [ends, LoopPhase.ongoing, Bool.false_eq_true, if_true, if_false]
    omega
  · simp only [ends, LoopPhase.ongoing_iff.mpr ends, if_true, if_false]
    omega

theorem eq_replicate_of_going_eq_zero {loops : List LoopPhase} (none : going loops = 0) :
    loops = List.replicate loops.length .ended := by
  apply List.eq_replicate_of_mem
  intro phase member
  by_contra here
  exact List.countP_eq_zero.mp none phase member (LoopPhase.ongoing_iff.mpr here)

structure Rostered (poller : Poller) (current : PollerState) : Prop where
  idle : current.runner = .idle → current.loops = [] ∧ current.departed = []
  joining : ∀ {remaining}, current.runner = .joining remaining →
    current.loops.length = poller.loops ∧
      remaining = going current.loops + current.departed.length
  atMost : ∀ {remaining}, current.runner = .joining remaining → remaining ≤ poller.loops
  finished : ∀ {moment}, current.runner = .finished moment →
    current.loops = List.replicate poller.loops .ended ∧ current.departed = []

section Rostered

variable {poller : Poller} {current : PollerState}

theorem rostered_start (poller : Poller) (sticky : StickyCache StateName) :
    Rostered poller (start poller sticky) where
  idle _ := ⟨rfl, rfl⟩
  joining := nofun
  atMost := nofun
  finished := nofun

theorem Rostered.ended_of_finished (rostered : Rostered poller current) {moment : Instant}
    (finished : current.runner = .finished moment) {loop : Nat} {phase : LoopPhase}
    (stands : current.loops[loop]? = some phase) : phase = .ended := by
  rw [(rostered.finished finished).1, List.getElem?_replicate] at stands
  split at stands <;> cases stands
  rfl

theorem Rostered.loop (rostered : Rostered poller current) {index : Nat} {phase : LoopPhase}
    {outcome : Outcome} (stands : current.loops[index]? = some phase)
    (step : LoopStep poller current index phase outcome) : Rostered poller outcome.1 := by
  obtain ⟨next, moves⟩ := step.movesItself
  have here : phase ≠ .ended := step.ne_ended
  have inside : index < current.loops.length := (List.getElem?_eq_some_iff.mp stands).1
  refine ⟨?_, ?_, fun joining => rostered.atMost (moves.runner ▸ joining), ?_⟩
  · intro idle
    have none := (rostered.idle (moves.runner ▸ idle)).1
    rw [none] at inside
    exact absurd inside (Nat.not_lt_zero _)
  · intro remaining joining
    obtain ⟨length, count⟩ := rostered.joining (moves.runner ▸ joining)
    have left := going_set stands here next
    rw [moves.loops, List.length_set]
    refine ⟨length, ?_⟩
    rcases moves.departs with ⟨rfl, crash, departed, -⟩ | ⟨stays, departed⟩
    · rw [departed, List.length_append, List.length_singleton]
      simp only [if_true] at left
      omega
    · rw [departed]
      simp only [stays, if_false] at left
      omega
  · intro moment finished
    exact absurd (rostered.ended_of_finished (moves.runner ▸ finished) stands) here

theorem Rostered.next {move : CompanyMove} {outcome : Outcome}
    (rostered : Rostered poller current) (happens : Happens poller current move outcome) :
    Rostered poller outcome.1 := by
  cases happens with
  | loop stands step => exact rostered.loop stands step
  | begins idle =>
      obtain ⟨-, nobody⟩ := rostered.idle idle
      refine ⟨nofun, ?_, ?_, nofun⟩ <;> rintro remaining ⟨⟩
      · simp [nobody, going, List.countP_replicate, LoopPhase.ongoing]
      · exact Nat.le_refl _
  | @joins remaining crash rest joining departed =>
      obtain ⟨length, count⟩ := rostered.joining joining
      have few := rostered.atMost joining
      refine ⟨nofun, ?_, ?_, nofun⟩ <;> rintro fewer ⟨⟩
      · rw [departed, List.length_cons] at count
        exact ⟨length, by simp only; omega⟩
      · omega
  | finishes joining nobody =>
      obtain ⟨length, count⟩ := rostered.joining joining
      refine ⟨nofun, nofun, nofun, fun _ => ?_⟩
      have none : going current.loops = 0 := by omega
      exact ⟨length ▸ eq_replicate_of_going_eq_zero none, nobody⟩
  | dispatches | waits | cancels | passes | visits =>
      exact ⟨rostered.idle, rostered.joining, rostered.atMost, rostered.finished⟩

theorem Rostered.after (rostered : Rostered poller current) (moves : List CompanyMove) :
    Rostered poller (current.after poller moves) :=
  preserved Rostered.next rostered moves

theorem rostered_after (poller : Poller) (sticky : StickyCache StateName)
    (moves : List CompanyMove) : Rostered poller ((start poller sticky).after poller moves) :=
  (rostered_start poller sticky).after moves

/-- A runner that has not finished can move, or has a loop to wait for. -/
theorem Rostered.progress (rostered : Rostered poller current)
    (unfinished : ∀ moment, current.runner ≠ .finished moment) :
    (stepRunner poller current).isSome = true ∨
      ∃ (index : Nat) (phase : LoopPhase),
        current.loops[index]? = some phase ∧ phase ≠ .ended := by
  cases runner : current.runner with
  | idle => exact .inl (by simp [stepRunner, runner])
  | finished moment => exact absurd runner (unfinished moment)
  | joining remaining =>
      obtain ⟨-, count⟩ := rostered.joining runner
      by_cases left : going current.loops = 0
      · refine .inl ?_
        cases departed : current.departed with
        | nil =>
            rw [departed, left] at count
            simp [stepRunner, runner, departed, count]
        | cons crash rest => simp [stepRunner, runner, departed]
      · refine .inr ?_
        obtain ⟨phase, member, here⟩ := List.countP_pos_iff.mp (Nat.pos_of_ne_zero left)
        obtain ⟨index, stands⟩ := List.mem_iff_getElem?.mp member
        exact ⟨index, phase, stands, LoopPhase.ongoing_iff.mp here⟩

end Rostered

end PollerState

end DecisionWorker
