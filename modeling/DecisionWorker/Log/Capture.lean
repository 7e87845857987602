import DecisionWorker.Log.Event

set_option autoImplicit false

/-!
Subscribers to the log of one thread, one on top of the other.

Only the top subscriber gets an event. A capture records what it gets, and what it
recorded stays readable after it has left the stack. The console shows warnings and
errors and records nothing.
-/

namespace DecisionWorker

inductive Subscriber where
  | capture (index : Nat)
  | console
  deriving DecidableEq

def Subscriber.enables (subscriber : Subscriber) (level : Level) : Bool :=
  match subscriber with
  | .capture _ => true
  | .console => decide (level = .error) || decide (level = .warn)

/-- The subscribers, top first, and everything each capture has recorded so far, oldest
capture and oldest event first. -/
structure Log where
  subscribers : List Subscriber
  captured : List (List Event)

namespace Log

def empty : Log := ⟨[], []⟩

inductive Action where
  | install
  | installConsole
  | uninstall
  | emit (emission : Emission)

def enabled (log : Log) (level : Level) : Bool :=
  match log.subscribers with
  | [] => false
  | top :: _ => top.enables level

def install (log : Log) : Log :=
  { subscribers := .capture log.captured.length :: log.subscribers
    captured := log.captured ++ [[]] }

def installConsole (log : Log) : Log :=
  { log with subscribers := .console :: log.subscribers }

def uninstall (log : Log) : Log :=
  { log with subscribers := log.subscribers.tail }

def emit (log : Log) (emission : Emission) : Log :=
  match log.subscribers with
  | .capture index :: _ =>
      { log with captured := log.captured.modify index (· ++ [emission.event]) }
  | _ => log

def act (log : Log) : Action → Log
  | .install => log.install
  | .installConsole => log.installConsole
  | .uninstall => log.uninstall
  | .emit emission => log.emit emission

def run (log : Log) (actions : List Action) : Log := actions.foldl act log

def events (log : Log) (index : Nat) : List Event := log.captured.getD index []

def atLevel (log : Log) (index : Nat) (level : Level) : List Event :=
  (log.events index).filter fun event => decide (event.level = level)

end Log

end DecisionWorker
