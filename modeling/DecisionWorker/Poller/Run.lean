import DecisionWorker.Poller.Schedule

set_option autoImplicit false

/-!
A whole run of a poller: it works until it is told to shut down, comes to rest, and
gives up its cache, and the dispatcher is left to finish what it has to do.
-/

namespace DecisionWorker

structure Snapshot where
  state : PollerState
  trace : Trace

/-- A finished run: the poller at the moment of the shutdown, the moment at which its runner
finished, the number of states that were still cached then, and everything that happened. -/
structure PollerReport where
  atShutdown : Snapshot
  ended : Instant
  lengthAfter : Nat
  trace : Trace

namespace PollerState

def cachedCount (current : PollerState) : Nat :=
  match current.sticky.standing with
  | .live cache => cache.length
  | _ => 0

def isCached (current : PollerState) (key : ExecutionKey) : Bool :=
  match current.sticky.standing with
  | .live cache => cache.contains key
  | _ => false

def performAll (current : PollerState) :
    List (CacheOperation StateName) → PollerState × List Occurrence
  | [] => (current, [])
  | operation :: rest =>
      let performed := current.perform operation
      let others := performed.1.performAll rest
      (others.1, performed.2.2 ++ others.2)

def windDown (current : PollerState) (resets : ResetService) (time : Duration) :
    PollerState × Trace :=
  let moment : StickyMoment StateName := ⟨current.now, current.sticky⟩
  let wound := moment.run resets [.drop, .advance time]
  ({ current with now := wound.1.now, sticky := wound.1.sticky },
    wound.2.map fun event => (event.1, .sticky event.2))

end PollerState

namespace Poller

def fault? (poller : Poller) : Option SetupError :=
  if poller.taskList = "" then some .emptyTaskList
  else if poller.loops = 0 then some .noPollers
  else none

/-- How long the dispatcher is left alone after everything else has ended. -/
def afterlife : Duration := .ofSeconds 3600

def shutDown (poller : Poller) (limit : Nat) (current : PollerState) :
    Option (PollerState × Trace) :=
  let cancelled := current.cancel
  match cancelled.1.run poller .finished limit (cancelled.1.readyAgenda poller) with
  | none => none
  | some (quiet, trace) => some (quiet, stamp current.now cancelled.2 ++ trace)

/-- Works until the given moment. A shutdown at the very start comes before anything has
run. -/
def workUntil (poller : Poller) (limit : Nat) (current : PollerState) (shutdown : Instant) :
    Option (PollerState × Trace) :=
  if shutdown = .zero then some (current, [])
  else current.run poller (.moment shutdown) limit (current.readyAgenda poller)

/-- A whole run with a cache of some content, unless working or coming to rest takes more
than `limit` turns. -/
def run (poller : Poller) (limit : Nat) (sticky : StickyCache StateName)
    (content : List (CacheOperation StateName)) (shutdown : Instant) : Option PollerReport :=
  let loaded := (PollerState.start poller sticky).performAll content
  let loading := stamp .zero loaded.2
  match poller.workUntil limit loaded.1 shutdown with
  | none => none
  | some (busy, working) =>
      match poller.shutDown limit busy with
      | none => none
      | some (quiet, stopping) =>
          let wound := quiet.windDown poller.resets afterlife
          some
            { atShutdown := ⟨busy, loading ++ working⟩
              ended := quiet.runner.finishedAt?.getD quiet.now
              lengthAfter := quiet.cachedCount
              trace := loading ++ working ++ stopping ++ wound.2 }

end Poller

end DecisionWorker
