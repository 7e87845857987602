import DecisionWorker.Proofs.Poller.Effort
import DecisionWorker.Proofs.Poller.HandlerCalls

set_option autoImplicit false

/-!
From the cancellation of the token to the return.

`Stopping` is what holds from the moment of the cancellation on, in every prompt run: no call of the
handler begins later, and the clock does not pass the end of the last call before the runner has
finished. `not_finished` says that a runner does not finish before the cancellation, unless a
loop has crashed.
-/

namespace DecisionWorker

def Occurrence.crashes : Occurrence → Bool
  | .departed _ (some _) => true
  | _ => false

namespace PollerState

section Crashes

variable {poller : Poller} {current : PollerState}

end Crashes

structure Stopping (poller : Poller) (since : Instant) (current : PollerState) (past : Trace) :
    Prop where
  rostered : Rostered poller current
  working : Working poller current past
  cancelled : current.cancelled = true
  begun : since ≤ current.now
  early : ∀ {moment loop task cached}, (moment, .handled loop task cached) ∈ past →
    moment ≤ since
  handedOver : since < current.now →
    ∀ (loop : Nat) (task : DecisionTask), current.loops[loop]? ≠ some (.received task)
  soon : current.runner.finishedAt?.getD current.now ≤ latest since (handlerEnds poller past)
  afterAll : ∀ {moment}, current.runner = .finished moment →
    latest since (handlerEnds poller past) ≤ moment

section Stopping

variable {poller : Poller} {since : Instant} {current : PollerState} {past : Trace}
  {move : CompanyMove} {outcome : Outcome}

end Stopping

end PollerState

end DecisionWorker
