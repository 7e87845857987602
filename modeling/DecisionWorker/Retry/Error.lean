set_option autoImplicit false

/-!
How a retry loop can fail, and the text of it.
-/

namespace DecisionWorker

/-- The failure of an operation: a message, and the messages of its sources from the outside
in. -/
structure OperationError where
  message : String
  sources : List String
  retryable : Bool
  deriving DecidableEq

/-- The error of a retry loop: that of its last call, or that it was cancelled. -/
inductive RetryError (Failure : Type) where
  | operation (failure : Failure)
  | cancelled
  deriving DecidableEq

namespace RetryError

variable {Failure : Type}

def cancelledText : String := "the retry loop was cancelled"

def isCancelled : RetryError Failure → Bool
  | .operation _ => false
  | .cancelled => true

def operation? : RetryError Failure → Option Failure
  | .operation failure => some failure
  | .cancelled => none

def text : RetryError OperationError → String
  | .operation failure => failure.message
  | .cancelled => cancelledText

def sources : RetryError OperationError → List String
  | .operation failure => failure.sources
  | .cancelled => []

/-- The text at the right end of a field of the given width. Only an operation's own message
takes the width into account. -/
def textIn (width : Nat) (error : RetryError OperationError) : String :=
  match error with
  | .operation failure =>
      String.ofList (List.replicate (width - failure.message.length) ' ') ++ failure.message
  | .cancelled => error.text

end RetryError

end DecisionWorker
