import DecisionWorker.Backoff.Policy

set_option autoImplicit false

/-!
Policies that read their answers off a list, one per attempt, and stop at its end.
-/

namespace DecisionWorker

inductive ScheduleEntry where
  | wait (delay : Duration)
  | stop
  | fail (crash : Crash)

def ScheduleEntry.answer : ScheduleEntry → Except Crash NextDelay
  | .wait delay => .ok (.wait delay)
  | .stop => .ok .stop
  | .fail crash => .error crash

/-- The policy that answers attempt `n` with entry `n`, counted from one. -/
def RetryPolicy.schedule (entries : List ScheduleEntry) : RetryPolicy where
  consult _ attempt _ := (entries.getD (attempt - 1) .stop).answer

end DecisionWorker
