set_option autoImplicit false

/-!
Failures that end whatever was going on.
-/

namespace DecisionWorker

structure Crash where
  message : String
  deriving DecidableEq

end DecisionWorker
