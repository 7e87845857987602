import DecisionWorker.Sticky.Move
import DecisionWorker.Log.Event

set_option autoImplicit false

/-!
What a cache and its dispatcher log.

Every notice that is dealt with leaves one event: that it was skipped, or how its call
ended.
-/

namespace DecisionWorker

def executionField (key : ExecutionKey) : String × FieldValue := ("execution", .text key.text)

def CacheEffect.event? {State : Type} : CacheEffect State → Option Event
  | .created capacity =>
      some (.say .debug "created workflow execution cache" [("capacity", .integer capacity)])
  | .evicted eviction =>
      some (.say .debug "evicted workflow execution"
        [executionField eviction.key, ("generation", .integer eviction.generation)])
  | .queued _ => none
  | .undeliverable eviction =>
      some (.say .warn "eviction dispatcher is not running" [executionField eviction.key])
  | .cleared count =>
      some (.say .debug "cleared workflow execution cache" [("count", .integer count)])
  | .disposed _ _ => none

/-- The event of a finished call; a crash leaves none. -/
def CallEnding.event? (ending : CallEnding) (eviction : Eviction) (timeout : Duration) :
    Option Event :=
  let fields := [executionField eviction.key, ("task_list", .text eviction.taskList)]
  match ending with
  | .answered .success => some (.say .debug "reset sticky execution" fields)
  | .answered (.failure error) =>
      some (.say .warn ("cannot reset sticky execution: " ++ error.text) fields)
  | .answered .crash => none
  | .timedOut =>
      some (.say .warn "cannot reset sticky execution: the call timed out"
        (fields ++ [("timeout", .text timeout.text)]))

def DispatchStep.event? (timeout : Duration) : DispatchStep → Option Event
  | .skipped eviction =>
      some (.say .debug "skipping sticky reset, the execution was cached again"
        [executionField eviction.key, ("generation", .integer eviction.generation)])
  | .checked _ => none
  | .called _ => none
  | .ended eviction ending => ending.event? eviction timeout
  | .stopped => some (.say .debug "eviction dispatcher stopped" [])

def StickyEvent.event? {State : Type} (timeout : Duration) : StickyEvent State → Option Event
  | .effect happened => happened.event?
  | .dispatched step => step.event? timeout

end DecisionWorker
