import DecisionWorker.Retry.Plan
import DecisionWorker.Log.Event

set_option autoImplicit false

/-!
What a retry loop logs.
-/

namespace DecisionWorker

def retryingEvent (attempt : Nat) (delay : Duration) : Event :=
  .say .debug "retrying operation" [("attempt", .integer attempt), ("delay", .text delay.text)]

def RetryStep.event? {Failure : Type} : RetryStep Failure → Option Event
  | .logged attempt delay => some (retryingEvent attempt delay)
  | _ => none

end DecisionWorker
