import DecisionWorker.Sticky.Move

set_option autoImplicit false

/-!
The calls of a dispatcher, read off a trace.
-/

namespace DecisionWorker

/-- A call: when it started, for which eviction, and when it was answered, if it was. -/
structure ResetCall where
  started : Instant
  eviction : Eviction
  completed : Option Instant
  deriving DecidableEq

/-- Whether a call has led to an answer, good or bad. -/
def CallEnding.completes : CallEnding → Bool
  | .answered .success => true
  | .answered (.failure _) => true
  | .answered .crash => false
  | .timedOut => false

variable {State : Type}

/-- When the call in progress at the beginning of a trace was answered. -/
def completion : List (Instant × StickyEvent State) → Option Instant
  | [] => none
  | (moment, .dispatched (.ended _ ending)) :: _ =>
      if ending.completes then some moment else none
  | _ :: rest => completion rest

def resetCalls : List (Instant × StickyEvent State) → List ResetCall
  | [] => []
  | (moment, .dispatched (.called eviction)) :: rest =>
      ⟨moment, eviction, completion rest⟩ :: resetCalls rest
  | _ :: rest => resetCalls rest

end DecisionWorker
