import DecisionWorker.Backoff.Exponential.Text
import DecisionWorker.Text.Quoted

set_option autoImplicit false

/-!
Options of caches and pollers, with their defaults.
-/

namespace DecisionWorker

structure CacheOptions where
  capacity : Nat := 10000
  resetTimeout : Duration := .ofSeconds 10

def CacheOptions.text (options : CacheOptions) : String :=
  Record.text "CacheOptions"
    [("capacity", toString options.capacity), ("reset_timeout", options.resetTimeout.text)]

namespace PollerOptions

/-- Retries within a poll: quick at first, and given up after a while. -/
def defaultPollRetry : ExponentialPolicy :=
  ExponentialSettings.clamp
    { initial := .ofMilliseconds 200, maximum := some (.ofSeconds 10) }

/-- Backpressure after failed polls: slower, and never given up. -/
def defaultBackpressure : ExponentialPolicy :=
  ExponentialSettings.clamp
    { initial := .ofSeconds 1, maximum := some (.ofSeconds 60), expiration := .zero }

end PollerOptions

structure PollerOptions where
  taskList : String := ""
  pollers : Nat := 2
  pollRetry : ExponentialPolicy := PollerOptions.defaultPollRetry
  backpressure : ExponentialPolicy := PollerOptions.defaultBackpressure

def PollerOptions.text (options : PollerOptions) : String :=
  Record.text "PollerOptions"
    [ ("task_list", Quoted.text options.taskList),
      ("pollers", toString options.pollers),
      ("poll_retry", options.pollRetry.text),
      ("backpressure", options.backpressure.text) ]

end DecisionWorker
