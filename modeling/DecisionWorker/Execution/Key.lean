import DecisionWorker.SetupError

set_option autoImplicit false

/-!
Keys of workflow executions: a workflow id and a run id, neither empty.

Keys are ordered by workflow id and then by run id, text by code point.
-/

namespace DecisionWorker

structure ExecutionKey where
  workflowId : String
  runId : String
  workflowId_ne : workflowId ≠ ""
  runId_ne : runId ≠ ""
  deriving DecidableEq

namespace ExecutionKey

def make (workflowId runId : String) : Except SetupError ExecutionKey :=
  if workflowId_eq : workflowId = "" then .error (.emptyExecutionField .workflowId)
  else if runId_eq : runId = "" then .error (.emptyExecutionField .runId)
  else .ok ⟨workflowId, runId, workflowId_eq, runId_eq⟩

def text (key : ExecutionKey) : String := key.workflowId ++ "/" ++ key.runId

def compare (left right : ExecutionKey) : Ordering :=
  (compareOfLessAndEq left.workflowId right.workflowId).then
    (compareOfLessAndEq left.runId right.runId)

def sort (keys : List ExecutionKey) : List ExecutionKey :=
  keys.mergeSort fun left right => left.compare right != .gt

def countDistinct (keys : List ExecutionKey) : Nat := keys.eraseDups.length

end ExecutionKey

end DecisionWorker
