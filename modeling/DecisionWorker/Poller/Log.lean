import DecisionWorker.Poller.State
import DecisionWorker.Retry.Log
import DecisionWorker.Sticky.Log

set_option autoImplicit false

/-!
What a poller logs.
-/

namespace DecisionWorker

/-- A crash as the runner notices it. Tasks are numbered anew in every process, so the
letter N stands for the number. -/
def Crash.noticeText (crash : Crash) : String :=
  "task N panicked with message " ++ Quoted.text crash.message

def loopStoppedText : String := "decision poll loop stopped"

/-- The events of an occurrence, given the settings of the poller. -/
def Occurrence.events (poller : Poller) : Occurrence → List Event
  | .sticky event => (event.event? poller.resets.timeout).toList
  | .started =>
      [.say .info "starting decision pollers"
        [("task_list", .text poller.taskList), ("pollers", .integer poller.loops)]]
  | .cancelled => []
  | .throttled _ _ => []
  | .called _ => []
  | .retrying loop attempt delay error =>
      [ .say .debug ("retrying decision task poll: " ++ error.text)
          [("poller", .integer loop), ("attempt", .integer attempt), ("delay", .text delay.text)],
        retryingEvent attempt delay ]
  | .polled _ _ => []
  | .pollFailed loop failures error =>
      [.say .warn ("cannot poll for decision tasks: " ++ error.text)
        [("poller", .integer loop), ("failures", .integer failures)]]
  | .discarded _ execution =>
      [.say .warn
        "received the full history for a cached execution, discarding the cached state"
        [executionField execution]]
  | .handled _ _ _ => []
  | .decided _ task (.failure error) =>
      [.say .warn ("cannot process decision task: " ++ error.text)
        [executionField task.execution]]
  | .decided _ _ _ => []
  | .departed loop none => [.say .debug loopStoppedText [("poller", .integer loop)]]
  | .departed _ (some _) => []
  | .crashNoticed crash =>
      [.say .error ("decision poll loop failed: " ++ crash.noticeText) []]
  | .finished => [.say .info "stopped decision pollers" [("task_list", .text poller.taskList)]]
  | .runnerCrashed _ => []

end DecisionWorker
