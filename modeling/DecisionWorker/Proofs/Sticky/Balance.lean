import DecisionWorker.Proofs.Cache.Holdings
import DecisionWorker.Proofs.Sticky.Releases
import DecisionWorker.Proofs.Sticky.Staleness

set_option autoImplicit false

/-!
Every insertion of a state is accounted for.

A state that was put is disposed, is still held by an entry, or was pushed out by the very
same state; nothing else can become of it, except that a cache in which an insertion crashes
takes all that it holds with it. So a state that is put only once is disposed at most once,
not while it is cached, and at the latest when the cache is dropped.
-/

namespace DecisionWorker

variable {State : Type} [DecidableEq State]

namespace StickyCache

/-- The entry that an insertion pushes out: the one under the same key, or else the one whose
key the reply names. -/
def displaced? (sticky : StickyCache State) (key : ExecutionKey) (state : State)
    (taskList : String) : Option (Entry State) :=
  (sticky.cached? key).orElse fun _ =>
    (sticky.perform (.put key state taskList)).reply.evictedKey?.bind sticky.cached?

end StickyCache

namespace StickyMoment

def puts (state : State) (moment : StickyMoment State) : StickyMove State → Nat
  | .operate (.put _ stored _) =>
      match moment.sticky.standing with
      | .live _ => if stored = state then 1 else 0
      | _ => 0
  | _ => 0

/-- The sum, over the moves of a run, of what each of them counts for. -/
def tally (service : ResetService) (counted : StickyMoment State → StickyMove State → Nat)
    (moment : StickyMoment State) : List (StickyMove State) → Nat
  | [] => 0
  | first :: rest =>
      counted moment first + tally service counted (moment.move service first).after rest

end StickyMoment

end DecisionWorker
