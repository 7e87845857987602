import DecisionWorker.Sticky.Cache

set_option autoImplicit false

/-!
A cache, its dispatcher and the clock, moving one after the other.

Users of the cache, the dispatcher and the clock may take turns in any order. Two moves
combine many: letting the dispatcher do all it can before the clock has to move, and
letting the clock run while the dispatcher works.
-/

namespace DecisionWorker

/-- Something that happens around a cache. -/
inductive StickyEvent (State : Type) where
  | effect (effect : CacheEffect State)
  | dispatched (step : DispatchStep)
  deriving DecidableEq

structure StickyMoment (State : Type) where
  now : Instant
  sticky : StickyCache State
  deriving DecidableEq

inductive StickyMove (State : Type) where
  | operate (operation : CacheOperation State)
  /-- An insertion crashes half way. -/
  | crashInserting (crash : Crash)
  | drop
  /-- The dispatcher makes one move, if it can. -/
  | dispatch
  /-- Only the clock moves. -/
  | pass (time : Duration)
  /-- The dispatcher moves until it has to wait. -/
  | settle
  /-- The clock moves, and the dispatcher whenever it can. -/
  | advance (time : Duration)

structure StickyResult (State : Type) where
  after : StickyMoment State
  reply : CacheReply State
  trace : List (Instant × StickyEvent State)

namespace StickyMoment

variable {State : Type}

def start (sticky : StickyCache State) : StickyMoment State := ⟨.zero, sticky⟩

def operated (now : Instant) (outcome : StickyOutcome State) : StickyResult State where
  after := ⟨now, outcome.sticky⟩
  reply := outcome.reply
  trace := outcome.effects.map fun effect => (now, .effect effect)

def dispatched (now : Instant) (worked : StickyCache State × List (Instant × DispatchStep)) :
    StickyResult State where
  after := ⟨now, worked.1⟩
  reply := .done
  trace := worked.2.map fun step => (step.1, .dispatched step.2)

variable [DecidableEq State]

def move (service : ResetService) (moment : StickyMoment State) :
    StickyMove State → StickyResult State
  | .operate operation => operated moment.now (moment.sticky.perform operation)
  | .crashInserting crash => operated moment.now (moment.sticky.crashInserting crash)
  | .drop => operated moment.now moment.sticky.drop
  | .dispatch =>
      match moment.sticky.dispatch service moment.now with
      | none => ⟨moment, .done, []⟩
      | some (sticky, step) => ⟨⟨moment.now, sticky⟩, .done, [(moment.now, .dispatched step)]⟩
  | .pass time => ⟨⟨moment.now + time, moment.sticky⟩, .done, []⟩
  | .settle => dispatched moment.now (moment.sticky.settle service moment.now)
  | .advance time =>
      let target := moment.now + time
      dispatched target (moment.sticky.advance service moment.now target)

def run (service : ResetService) (moment : StickyMoment State) :
    List (StickyMove State) → StickyMoment State × List (Instant × StickyEvent State)
  | [] => (moment, [])
  | first :: rest =>
      let moved := moment.move service first
      let others := run service moved.after rest
      (others.1, moved.trace ++ others.2)

end StickyMoment

end DecisionWorker
