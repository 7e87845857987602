import DecisionWorker.Proofs.Poller.LoopSteps
import DecisionWorker.Proofs.Sticky.Releases

set_option autoImplicit false

/-!
What a trace tells of the states that are handed to handlers and of those that are disposed.

The cache goes on owning a state that a handler works on, so the state may be disposed in the
meantime. If the handler keeps it nevertheless, it is cached again: it is `PutBack`.
-/

namespace DecisionWorker

def Occurrence.disposed? : Occurrence → Option StateName
  | .sticky (.effect effect) => effect.disposed?
  | _ => none

def disposedIn (past : List Occurrence) : List StateName :=
  past.filterMap Occurrence.disposed?

@[simp]
theorem disposedIn_append (past more : List Occurrence) :
    disposedIn (past ++ more) = disposedIn past ++ disposedIn more :=
  List.filterMap_append

theorem disposedIn_effects (effects : List (CacheEffect StateName)) :
    disposedIn (effects.map fun effect => .sticky (.effect effect)) =
      effects.filterMap CacheEffect.disposed? := by
  simp only [disposedIn, List.filterMap_map]
  rfl

/-- A handler of the loop has been given the state and has not answered. -/
def Underway (loop : Nat) (task : DecisionTask) (state : StateName) (past : List Occurrence) :
    Prop :=
  ∃ before during, past = before ++ .handled loop task (some state) :: during ∧
    ∀ other answer, .decided loop other answer ∉ during

def HandlerAnswer.Returns (answer : HandlerAnswer) (state : StateName) : Prop :=
  answer = .keep ∨ answer = .keepOther state

/-- A handler was given a state in order, which was disposed while it worked, and kept it. -/
def PutBack (state : StateName) (past : List Occurrence) : Prop :=
  ∃ before during after loop task answer,
    past = before ++ .handled loop task (some state) ::
      (during ++ .decided loop task answer :: after) ∧
    (∀ other reply, .decided loop other reply ∉ during) ∧ answer.Returns state ∧
    state ∉ disposedIn before ∧ state ∈ disposedIn during

/-- Whenever a handler is given a disposed state, the state has been put back. -/
def Explained (past : List Occurrence) : Prop :=
  ∀ before after loop task state, past = before ++ .handled loop task (some state) :: after →
    state ∈ disposedIn before → PutBack state before

theorem PutBack.append {state : StateName} {past : List Occurrence} (putBack : PutBack state past)
    (more : List Occurrence) : PutBack state (past ++ more) := by
  obtain ⟨before, during, after, loop, task, answer, rfl, rest⟩ := putBack
  exact ⟨before, during, after ++ more, loop, task, answer, by simp, rest⟩

theorem PutBack.disposed {state : StateName} {past : List Occurrence}
    (putBack : PutBack state past) : state ∈ disposedIn past := by
  obtain ⟨before, during, after, loop, task, answer, rfl, -, -, -, lost⟩ := putBack
  have later : state ∈ disposedIn (during ++ .decided loop task answer :: after) := by
    rw [disposedIn_append]
    exact List.mem_append_left _ lost
  rw [disposedIn_append]
  exact List.mem_append_right _ later

theorem Underway.append {loop : Nat} {task : DecisionTask} {state : StateName}
    {past more : List Occurrence} (underway : Underway loop task state past)
    (silent : ∀ other answer, .decided loop other answer ∉ more) :
    Underway loop task state (past ++ more) := by
  obtain ⟨before, during, rfl, undecided⟩ := underway
  refine ⟨before, during ++ more, by simp, ?_⟩
  intro other answer decided
  rcases List.mem_append.mp decided with inDuring | inMore
  · exact undecided other answer inDuring
  · exact silent other answer inMore

theorem Underway.putBack {loop : Nat} {task : DecisionTask} {state : StateName}
    {past : List Occurrence} (underway : Underway loop task state past)
    (explained : Explained past) (disposed : state ∈ disposedIn past) {answer : HandlerAnswer}
    (returns : answer.Returns state) :
    PutBack state (past ++ [.decided loop task answer]) := by
  obtain ⟨before, during, rfl, undecided⟩ := underway
  by_cases already : state ∈ disposedIn before
  · have earlier := explained _ _ _ _ _ rfl already
    simpa using earlier.append (.handled loop task (some state) :: during ++ _)
  · rw [disposedIn_append] at disposed
    have lost : state ∈ disposedIn during := (List.mem_append.mp disposed).resolve_left already
    exact ⟨before, during, [], loop, task, answer, by simp, undecided, returns, already, lost⟩

theorem eq_append_cons {past more before after : List Occurrence} {occurrence : Occurrence}
    (split : past ++ more = before ++ occurrence :: after) :
    (∃ rest, past = before ++ occurrence :: rest) ∨
      ∃ early, before = past ++ early ∧ more = early ++ occurrence :: after := by
  rcases List.append_eq_append_iff.mp split with ⟨early, rfl, inMore⟩ | ⟨rest, rfl, inPast⟩
  · exact .inr ⟨early, rfl, inMore⟩
  · rcases List.cons_eq_append_iff.mp inPast with ⟨rfl, rfl⟩ | ⟨rest, rfl, rfl⟩
    · exact .inr ⟨[], by simp, rfl⟩
    · exact .inl ⟨rest, rfl⟩

theorem Explained.append {past more : List Occurrence} (explained : Explained past)
    (plain : ∀ loop task state, .handled loop task (some state) ∉ more) :
    Explained (past ++ more) := by
  intro before after loop task state split disposed
  rcases eq_append_cons split with ⟨rest, inPast⟩ | ⟨early, rfl, inMore⟩
  · exact explained _ _ _ _ _ inPast disposed
  · exact absurd (by simp [inMore]) (plain loop task state)

theorem Explained.hand {past : List Occurrence} (explained : Explained past) {state : StateName}
    (known : state ∈ disposedIn past → PutBack state past) (loop : Nat) (task : DecisionTask) :
    Explained (past ++ [.handled loop task (some state)]) := by
  intro before after other otherTask given split disposed
  rcases eq_append_cons split with ⟨rest, inPast⟩ | ⟨early, rfl, inMore⟩
  · exact explained _ _ _ _ _ inPast disposed
  · cases early with
    | nil =>
        cases inMore
        rw [List.append_nil] at disposed ⊢
        exact known disposed
    | cons first early => simp at inMore

end DecisionWorker
