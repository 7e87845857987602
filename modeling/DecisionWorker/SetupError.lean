set_option autoImplicit false

/-!
What can be wrong with the way a worker is set up.
-/

namespace DecisionWorker

inductive ExecutionField where
  | workflowId
  | runId
  deriving DecidableEq

def ExecutionField.text : ExecutionField → String
  | .workflowId => "workflow id"
  | .runId => "run id"

/-- A reason why a key, a cache or a poller cannot be made. -/
inductive SetupError where
  | emptyExecutionField (field : ExecutionField)
  | zeroCapacity
  | zeroResetTimeout
  | noRuntime
  | emptyTaskList
  | noPollers
  deriving DecidableEq

def SetupError.message : SetupError → String
  | .emptyExecutionField field =>
      "the " ++ field.text ++ " of a workflow execution must not be empty"
  | .zeroCapacity => "the workflow execution cache capacity must be greater than zero"
  | .zeroResetTimeout => "the sticky reset timeout must be greater than zero"
  | .noRuntime => "the workflow execution cache must be created inside a tokio runtime"
  | .emptyTaskList => "the decision poller requires a task list name"
  | .noPollers => "the decision poller requires at least one poll loop"

end DecisionWorker
