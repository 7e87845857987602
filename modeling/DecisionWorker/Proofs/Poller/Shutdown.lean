import DecisionWorker.Proofs.Poller.Clearing
import DecisionWorker.Proofs.Poller.Recorded
import DecisionWorker.Proofs.Poller.Stopping

set_option autoImplicit false

/-!
How a poller shuts down.

When the token is cancelled no further call of the service begins, every loop that calls or waits
ends at once, and a handler at work is waited for. The runner finishes when the last handler has
answered, and leaves an empty cache behind.
-/

namespace DecisionWorker.PollerState

structure Returns (poller : Poller) (since : Instant) (current : PollerState) (past : Trace) :
    Prop where
  /-- No call of the handler begins after the cancellation. -/
  handlers : ∀ {moment loop task cached}, (moment, .handled loop task cached) ∈ past →
    moment ≤ since
  moment : ∀ {moment}, current.runner = .finished moment →
    moment = latest since (handlerEnds poller past)
  before : (∀ moment, current.runner ≠ .finished moment) →
    current.now ≤ latest since (handlerEnds poller past)
  possible : ∃ (more : List PollerMove) (moment : Instant),
    Prompt poller current (more.map .own) ∧
      (current.after poller (more.map .own)).runner = .finished moment

section Shutdown

variable {poller : Poller} {current : PollerState} {loop : Nat}

theorem getD_finishedAt? (unfinished : ∀ moment, current.runner ≠ .finished moment) :
    current.runner.finishedAt?.getD current.now = current.now := by
  cases runner : current.runner with
  | finished moment => exact absurd runner (unfinished moment)
  | idle | joining => rfl

theorem Stopping.returns {since : Instant} {past : Trace}
    (stopping : Stopping poller since current past) : Returns poller since current past where
  handlers := stopping.early
  moment := by
    intro moment finished
    have soon := stopping.soon
    rw [finished] at soon
    exact Duration.le_antisymm soon (stopping.afterAll finished)
  before unfinished := getD_finishedAt? unfinished ▸ stopping.soon
  possible := exists_return stopping.rostered stopping.cancelled

end Shutdown

end DecisionWorker.PollerState
