import DecisionWorker.Log.Capture
import Mathlib.Data.List.Induction

set_option autoImplicit false

/-!
Which guard is the top one.

Putting up a subscriber hands out a guard, and taking the guard down removes it. A guard is the top
one for as long as all that was put up after it has been taken down again (`Balanced`). That can be
read off what was done, without a stack: `OnTop`, `UnderConsole` and `Bare` tell whether a capture,
the console or nobody is told about the next event. The stack always agrees with them
(`top_eq_capture_iff`, `onTop_or_underConsole_or_bare`).
-/

namespace DecisionWorker.Log

variable {actions earlier first since : List Action} {capture : Nat}

def Action.puts : Action → Bool
  | .install | .installConsole => true
  | .uninstall | .emit _ => false

def Action.installs : Action → Bool
  | .install => true
  | .installConsole | .uninstall | .emit _ => false

def installed (actions : List Action) : Nat := actions.countP Action.installs

/-- Every guard that these actions put up they also take down, and no other. -/
inductive Balanced : List Action → Prop
  | nil : Balanced []
  | emit {rest : List Action} (emission : Emission) :
      Balanced rest → Balanced (.emit emission :: rest)
  | nest {guard : Action} {inner rest : List Action} : guard.puts = true → Balanced inner →
      Balanced rest → Balanced (guard :: (inner ++ .uninstall :: rest))

/-- The guard of a capture has been put up, and it is the top one. -/
def OnTop (capture : Nat) (actions : List Action) : Prop :=
  ∃ earlier since, actions = earlier ++ .install :: since ∧ installed earlier = capture ∧
    Balanced since

def UnderConsole (actions : List Action) : Prop :=
  ∃ earlier since, actions = earlier ++ .installConsole :: since ∧ Balanced since

/-- All guards have been taken down. To take down the top one when there is none does nothing. -/
inductive Bare : List Action → Prop
  | balanced {actions : List Action} : Balanced actions → Bare actions
  | uninstall {earlier since : List Action} : Bare earlier → Balanced since →
      Bare (earlier ++ .uninstall :: since)

theorem Balanced.append (balanced : Balanced first) (balanced' : Balanced since) :
    Balanced (first ++ since) := by
  induction balanced with
  | nil => exact balanced'
  | emit emission _ inductionHypothesis => exact .emit emission inductionHypothesis
  | nest puts inner _ _ inductionHypothesis =>
      rw [List.cons_append, List.append_assoc, List.cons_append]
      exact .nest puts inner inductionHypothesis

theorem Bare.append (bare : Bare earlier) (balanced : Balanced since) :
    Bare (earlier ++ since) := by
  cases bare with
  | balanced balanced' => exact .balanced (balanced'.append balanced)
  | uninstall bare balanced' =>
      rw [List.append_assoc, List.cons_append]
      exact .uninstall bare (balanced'.append balanced)

theorem run_append (log : Log) (first second : List Action) :
    log.run (first ++ second) = (log.run first).run second :=
  List.foldl_append

theorem run_concat (log : Log) (actions : List Action) (action : Action) :
    log.run (actions ++ [action]) = (log.run actions).act action :=
  run_append log actions [action]

theorem run_cons (log : Log) (action : Action) (rest : List Action) :
    log.run (action :: rest) = (log.act action).run rest := rfl

theorem subscribers_emit (log : Log) (emission : Emission) :
    (log.emit emission).subscribers = log.subscribers := by
  unfold emit
  split <;> rfl

theorem tail_subscribers_of_puts (log : Log) {guard : Action} (puts : guard.puts = true) :
    (log.act guard).subscribers.tail = log.subscribers := by
  cases guard with
  | install | installConsole => rfl
  | uninstall | emit => cases puts

theorem Balanced.subscribers_run (balanced : Balanced actions) (log : Log) :
    (log.run actions).subscribers = log.subscribers := by
  induction balanced generalizing log with
  | nil => rfl
  | emit emission _ inductionHypothesis =>
      rw [run_cons, inductionHypothesis]
      exact subscribers_emit log emission
  | @nest guard inner rest puts _ _ innerHypothesis restHypothesis =>
      rw [run_cons, run_append, run_cons, restHypothesis]
      show ((log.act guard).run inner).subscribers.tail = log.subscribers
      rw [innerHypothesis, tail_subscribers_of_puts log puts]

theorem length_captured_act (log : Log) (action : Action) :
    (log.act action).captured.length = log.captured.length + installed [action] := by
  cases action with
  | install => exact List.length_append
  | installConsole | uninstall => rfl
  | emit emission =>
      show (log.emit emission).captured.length = log.captured.length
      unfold emit
      split
      next => simp only [List.length_modify]
      next => rfl

theorem length_captured_run (actions : List Action) :
    (empty.run actions).captured.length = installed actions := by
  induction actions using List.reverseRecOn with
  | nil => rfl
  | append_singleton earlier action inductionHypothesis =>
      rw [run_concat, length_captured_act, inductionHypothesis]
      exact List.countP_append.symm

/-- The subscribers after a number of actions, the top one first, told by the guards alone. -/
inductive Stack : List Action → List Subscriber → Prop
  | bare {actions : List Action} : Bare actions → Stack actions []
  | capture {earlier since : List Action} {below : List Subscriber} : Stack earlier below →
      Balanced since →
      Stack (earlier ++ .install :: since) (.capture (installed earlier) :: below)
  | console {earlier since : List Action} {below : List Subscriber} : Stack earlier below →
      Balanced since → Stack (earlier ++ .installConsole :: since) (.console :: below)

theorem Stack.append {subscribers : List Subscriber} (stack : Stack earlier subscribers)
    (balanced : Balanced since) : Stack (earlier ++ since) subscribers := by
  cases stack with
  | bare bare => exact .bare (bare.append balanced)
  | capture below balanced' =>
      rw [List.append_assoc, List.cons_append]
      exact .capture below (balanced'.append balanced)
  | console below balanced' =>
      rw [List.append_assoc, List.cons_append]
      exact .console below (balanced'.append balanced)

/-- To take down a guard is to balance it. -/
theorem Stack.enclose {subscribers : List Subscriber} (stack : Stack earlier subscribers)
    {guard : Action} (puts : guard.puts = true) (balanced : Balanced since) :
    Stack (earlier ++ guard :: since ++ [.uninstall]) subscribers := by
  rw [List.append_assoc]
  exact stack.append (.nest puts balanced .nil)

theorem Stack.uninstall {subscribers : List Subscriber} (stack : Stack actions subscribers) :
    Stack (actions ++ [.uninstall]) subscribers.tail := by
  cases stack with
  | bare bare => exact .bare (.uninstall bare .nil)
  | capture below balanced => exact below.enclose rfl balanced
  | console below balanced => exact below.enclose rfl balanced

/-- One action keeps the stack in agreement with the guards. -/
theorem Stack.act {log : Log} (stack : Stack actions log.subscribers)
    (numbered : log.captured.length = installed actions) (action : Action) :
    Stack (actions ++ [action]) (log.act action).subscribers := by
  cases action with
  | install =>
      show Stack _ (.capture log.captured.length :: log.subscribers)
      rw [numbered]
      exact .capture stack .nil
  | installConsole => exact .console stack .nil
  | uninstall => exact stack.uninstall
  | emit emission =>
      show Stack _ (log.emit emission).subscribers
      rw [subscribers_emit]
      exact stack.append (.emit emission .nil)

theorem stack_run (actions : List Action) : Stack actions (empty.run actions).subscribers := by
  induction actions using List.reverseRecOn with
  | nil => exact .bare (.balanced .nil)
  | append_singleton earlier action inductionHypothesis =>
      rw [run_concat]
      exact inductionHypothesis.act (length_captured_run earlier) action

def top? (log : Log) : Option Subscriber := log.subscribers.head?

theorem OnTop.top_eq (onTop : OnTop capture actions) :
    (empty.run actions).top? = some (.capture capture) := by
  obtain ⟨earlier, since, rfl, rfl, balanced⟩ := onTop
  rw [run_append, run_cons, top?, balanced.subscribers_run, ← length_captured_run]
  rfl

theorem UnderConsole.top_eq (under : UnderConsole actions) :
    (empty.run actions).top? = some .console := by
  obtain ⟨earlier, since, rfl, balanced⟩ := under
  rw [run_append, run_cons, top?, balanced.subscribers_run]
  rfl

theorem Bare.top_eq (bare : Bare actions) : (empty.run actions).top? = none := by
  rw [top?, List.head?_eq_none_iff]
  induction bare with
  | balanced balanced => rw [balanced.subscribers_run, empty]
  | uninstall _ balanced inductionHypothesis =>
      rw [run_append, run_cons, balanced.subscribers_run]
      show (run empty _).subscribers.tail = []
      rw [inductionHypothesis, List.tail_nil]

theorem onTop_or_underConsole_or_bare (actions : List Action) :
    (∃ capture, OnTop capture actions) ∨ UnderConsole actions ∨ Bare actions := by
  have stack := stack_run actions
  generalize (empty.run actions).subscribers = subscribers at stack
  cases stack with
  | bare bare => exact .inr (.inr bare)
  | capture _ balanced => exact .inl ⟨_, _, _, rfl, rfl, balanced⟩
  | console _ balanced => exact .inr (.inl ⟨_, _, rfl, balanced⟩)

theorem top_eq_capture_iff :
    (empty.run actions).top? = some (.capture capture) ↔ OnTop capture actions := by
  constructor
  · intro top
    rcases onTop_or_underConsole_or_bare actions with ⟨other, onTop⟩ | under | bare
    · rw [onTop.top_eq] at top
      cases top
      exact onTop
    · rw [under.top_eq] at top
      cases top
    · rw [bare.top_eq] at top
      cases top
  · exact OnTop.top_eq

instance (capture : Nat) (actions : List Action) : Decidable (OnTop capture actions) :=
  decidable_of_iff _ top_eq_capture_iff

theorem OnTop.unique {other : Nat} (onTop : OnTop capture actions)
    (onTop' : OnTop other actions) : capture = other := by
  have same := onTop.top_eq.symm.trans onTop'.top_eq
  simpa using same

theorem exists_onTop_iff :
    (∃ capture, OnTop capture actions) ↔ ¬ (UnderConsole actions ∨ Bare actions) := by
  constructor
  · rintro ⟨capture, onTop⟩ (under | bare)
    · cases onTop.top_eq.symm.trans under.top_eq
    · cases onTop.top_eq.symm.trans bare.top_eq
  · exact (onTop_or_underConsole_or_bare actions).resolve_right

end DecisionWorker.Log
