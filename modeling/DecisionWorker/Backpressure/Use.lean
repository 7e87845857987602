import DecisionWorker.Backpressure.Throttle

set_option autoImplicit false

/-!
Uses of shared backpressure, one after the other, by callers that also see the clock
move and a token being cancelled.
-/

namespace DecisionWorker

/-- What a caller does, or what happens around the callers. -/
inductive BackpressureUse where
  /-- Reports a number of failures at once. -/
  | failed (times : Nat)
  | succeeded
  | failureCount
  | delay
  /-- Waits, while others act. -/
  | throttle (visits : List Visit)
  | cancel
  | advance (time : Duration)

inductive BackpressureReply where
  | done
  | count (failures : Nat)
  | delay (delay : Option Duration)
  | passed
  | cancelled
  | crashed (crash : Crash)
  deriving DecidableEq

structure BackpressureMoment where
  now : Instant
  shared : Backpressure
  cancelled : Bool

structure BackpressureOutcome where
  after : BackpressureMoment
  reply : BackpressureReply
  consulted : Option Consultation

namespace BackpressureMoment

def start (policy : RetryPolicy) : BackpressureMoment := ⟨.zero, .start policy, false⟩

def record (moment : BackpressureMoment) (recorded : Except Crash Backpressure) :
    BackpressureOutcome :=
  match recorded with
  | .error crash => ⟨moment, .crashed crash, none⟩
  | .ok shared => ⟨{ moment with shared }, .done, none⟩

def countReply : Except Crash Nat → BackpressureReply
  | .error crash => .crashed crash
  | .ok failures => .count failures

def delayReply : Except Crash (Option Duration) → BackpressureReply
  | .error crash => .crashed crash
  | .ok delay => .delay delay

def throttleReply : ThrottleResult → BackpressureReply
  | .passed => .passed
  | .cancelled => .cancelled
  | .crashed crash => .crashed crash

def use (moment : BackpressureMoment) : BackpressureUse → BackpressureOutcome
  | .failed times => moment.record (moment.shared.failedTimes moment.now times)
  | .succeeded => moment.record moment.shared.succeeded
  | .failureCount => ⟨moment, countReply moment.shared.failureCount, none⟩
  | .delay =>
      let reply := moment.shared.delay moment.now
      ⟨{ moment with shared := reply.shared }, delayReply reply.delay, reply.consulted⟩
  | .throttle visits =>
      let report := moment.shared.throttle moment.cancelled moment.now visits
      ⟨⟨report.ended, report.shared, report.cancelled⟩, throttleReply report.result,
        report.consulted⟩
  | .cancel => ⟨{ moment with cancelled := true }, .done, none⟩
  | .advance time => ⟨{ moment with now := moment.now + time }, .done, none⟩

end BackpressureMoment

end DecisionWorker
