set_option autoImplicit false

/-!
States of executions, known by name alone.

Two states are the same if they are the same object, so a name is all that a cache needs. A
state made while tasks are handled gets the next number; all others are numbered and labelled
by whoever brings them, and equal labels do not make two states the same.
-/

namespace DecisionWorker

inductive StateName where
  | given (number : Nat) (label : String)
  | made (number : Nat)
  deriving DecidableEq

def StateName.text : StateName → String
  | .given _ label => label
  | .made number => "new-" ++ toString number

end DecisionWorker
