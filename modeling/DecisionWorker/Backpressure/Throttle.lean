import DecisionWorker.Backpressure.Basic

set_option autoImplicit false

/-!
Waiting out the backpressure while others go on reporting failures and successes.

The length of the wait is fixed when it begins. After that only a cancellation shortens
it, and what others do changes the shared count but not the wait. Whatever happens in
the same instant as the end of the wait happens before it.
-/

namespace DecisionWorker

inductive BystanderAction where
  | failed
  | succeeded
  | cancel
  deriving DecidableEq

structure Visit where
  after : Duration
  action : BystanderAction

inductive ThrottleResult where
  | passed
  | cancelled
  | crashed (crash : Crash)
  deriving DecidableEq

structure ThrottleReport where
  result : ThrottleResult
  ended : Instant
  shared : Backpressure
  cancelled : Bool
  consulted : Option Consultation

/-- A wait in progress: when it ends as things stand, and whether the token has been
cancelled. -/
structure Wait where
  shared : Backpressure
  ending : Instant
  cancelled : Bool

namespace Wait

/-- Lets an action take effect; a cancellation ends the wait at once. -/
def act (wait : Wait) (now : Instant) : BystanderAction → Wait
  | .failed =>
      match wait.shared.failed now with
      | .error _ => wait
      | .ok shared => { wait with shared }
  | .succeeded =>
      match wait.shared.succeeded with
      | .error _ => wait
      | .ok shared => { wait with shared }
  | .cancel => { wait with ending := min wait.ending now, cancelled := true }

def attend (wait : Wait) (now : Instant) : List Visit → Wait
  | [] => wait
  | visit :: rest =>
      let moment := now + visit.after.timer
      if moment ≤ wait.ending then (wait.act moment visit.action).attend moment rest else wait

end Wait

def Backpressure.throttle (shared : Backpressure) (cancelled : Bool) (now : Instant)
    (visits : List Visit) : ThrottleReport :=
  let reply := shared.delay now
  match reply.delay with
  | .error crash => ⟨.crashed crash, now, reply.shared, cancelled, reply.consulted⟩
  | .ok none => ⟨.passed, now, reply.shared, cancelled, reply.consulted⟩
  | .ok (some delay) =>
      if cancelled then ⟨.cancelled, now, reply.shared, true, reply.consulted⟩
      else if delay.timer = .zero then ⟨.passed, now, reply.shared, false, reply.consulted⟩
      else
        let wait := Wait.attend ⟨reply.shared, now + delay.timer, false⟩ now visits
        { result := if wait.cancelled then .cancelled else .passed
          ended := wait.ending
          shared := wait.shared
          cancelled := wait.cancelled
          consulted := reply.consulted }

end DecisionWorker
