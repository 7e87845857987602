import DecisionWorker.Duration

set_option autoImplicit false

/-!
Values with named parts as text: a name, and the parts in braces.
-/

namespace DecisionWorker.Record

def text (name : String) (parts : List (String × String)) : String :=
  name ++ " \x7b " ++ String.intercalate ", " (parts.map fun part => part.1 ++ ": " ++ part.2) ++
    " \x7d"

def optional : Option Duration → String
  | none => "None"
  | some duration => "Some(" ++ duration.text ++ ")"

end DecisionWorker.Record
