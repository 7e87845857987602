import DecisionWorker.Crash
import DecisionWorker.Duration
import DecisionWorker.Execution.Key
import DecisionWorker.Execution.State
import DecisionWorker.ServiceError

set_option autoImplicit false

/-!
Decision tasks, and how the two collaborators of a poller answer: the service that hands
out tasks and the handler that works on them.
-/

namespace DecisionWorker

/-- A decision task. One that is told from the start carries the full history of its
execution. -/
structure DecisionTask where
  execution : ExecutionKey
  taskList : String
  token : String
  fromStart : Bool
  deriving DecidableEq

inductive PollAnswer where
  | empty
  | task (task : DecisionTask)
  | failure (error : ServiceError)
  | crash (crash : Crash)
  deriving DecidableEq

/-- What a handler makes of a task. -/
inductive HandlerAnswer where
  /-- Keep the state that was handed in, or a new one if there was none. -/
  | keep
  | renew
  | keepOther (state : StateName)
  /-- The execution is closed. -/
  | completed
  | failure (error : ServiceError)
  | crash (crash : Crash)
  deriving DecidableEq

structure PollBehaviour where
  latency : Duration
  answer : PollAnswer

structure HandlerBehaviour where
  latency : Duration
  answer : HandlerAnswer

end DecisionWorker
