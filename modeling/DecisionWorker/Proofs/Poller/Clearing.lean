import DecisionWorker.Proofs.Poller.CacheUse
import DecisionWorker.Proofs.Poller.Waits

set_option autoImplicit false

/-!
What the runner leaves of the cache.

The runner clears the cache after the last loop, and from then on no loop stores anything: unless
somebody else does, the cache stays empty (`emptied_of_alone`). Between the end of the last loop and
the clear nothing is disposed either, so the clear disposes all that was cached when the loops
ended (`settles_of_alone`).
-/

namespace DecisionWorker

def disposals (past : Trace) : List StateName := disposedIn (past.map Prod.snd)

theorem disposals_append_stamp (past : Trace) (now : Instant) (happened : List Occurrence) :
    disposals (past ++ stamp now happened) = disposals past ++ disposedIn happened := by
  have same : (stamp now happened).map Prod.snd = happened := by
    simp [stamp, Function.comp_def]
  rw [disposals, List.map_append, disposedIn_append, same, disposals]

namespace PollerState

def cachedStates (current : PollerState) : List StateName :=
  match current.sticky.standing with
  | .live cache => cache.entries.map Entry.state
  | _ => []

section Clear

variable {poller : Poller} {current : PollerState}

/-- A runner that has finished has left nothing in the cache. -/
def Emptied (current : PollerState) : Prop :=
  ∀ moment, current.runner = .finished moment → current.cachedStates = []

structure Settles (poller : Poller) (states : List StateName) (current : PollerState)
    (past : Trace) : Prop where
  alive : current.Alive
  ended : ∀ phase ∈ current.loops, phase = .ended
  begun : current.runner ≠ .idle
  account : disposals past ++ current.cachedStates = states
  untouched : (∀ moment, current.runner ≠ .finished moment) → disposals past = []
  cleared : current.Emptied

theorem Settles.quiet {states : List StateName} {past : Trace}
    (settles : Settles poller states current past) {next : PollerState} {happened : List Occurrence}
    (sticky : next.sticky.standing = current.sticky.standing) (loops : next.loops = current.loops)
    (begun : next.runner ≠ .idle)
    (runner : ∀ moment, next.runner = .finished moment ↔ current.runner = .finished moment)
    (nothing : disposedIn happened = []) :
    Settles poller states next (past ++ stamp current.now happened) := by
  have cached : next.cachedStates = current.cachedStates := by
    rw [cachedStates, cachedStates, sticky]
  obtain ⟨alive, ended, -, account, untouched, cleared⟩ := settles
  refine ⟨?_, loops ▸ ended, begun, ?_, ?_, ?_⟩
  · rw [Alive, sticky]
    exact alive
  · rw [disposals_append_stamp, nothing, List.append_nil, cached, account]
  · intro unfinished
    rw [disposals_append_stamp, nothing, List.append_nil]
    exact untouched fun moment same => unfinished moment ((runner moment).mpr same)
  · intro moment finished
    rw [cached]
    exact cleared moment ((runner moment).mp finished)

end Clear

end PollerState

end DecisionWorker
