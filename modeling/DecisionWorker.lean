import DecisionWorker.Backoff.Exponential
import DecisionWorker.Backoff.Exponential.Delay
import DecisionWorker.Backoff.Exponential.Text
import DecisionWorker.Backoff.Noise
import DecisionWorker.Backoff.Policy
import DecisionWorker.Backoff.Schedule
import DecisionWorker.Backpressure.Basic
import DecisionWorker.Backpressure.Throttle
import DecisionWorker.Backpressure.Use
import DecisionWorker.Binary64.Arithmetic
import DecisionWorker.Binary64.Basic
import DecisionWorker.Binary64.Shortest
import DecisionWorker.Binary64.Text
import DecisionWorker.Cache.Basic
import DecisionWorker.Cache.Operation
import DecisionWorker.Crash
import DecisionWorker.Duration
import DecisionWorker.Duration.Seconds
import DecisionWorker.Eviction.Dispatcher
import DecisionWorker.Execution.Key
import DecisionWorker.Execution.State
import DecisionWorker.Log.Capture
import DecisionWorker.Log.Event
import DecisionWorker.Options
import DecisionWorker.Poller.Log
import DecisionWorker.Poller.Run
import DecisionWorker.Poller.Schedule
import DecisionWorker.Poller.State
import DecisionWorker.Poller.Step
import DecisionWorker.Poller.Task
import DecisionWorker.Proofs.Backoff.Delays
import DecisionWorker.Proofs.Backoff.Limits
import DecisionWorker.Proofs.Backoff.Settings
import DecisionWorker.Proofs.Backpressure.Alike
import DecisionWorker.Proofs.Backpressure.Answers
import DecisionWorker.Proofs.Backpressure.GivingUp
import DecisionWorker.Proofs.Backpressure.Row
import DecisionWorker.Proofs.Backpressure.Tally
import DecisionWorker.Proofs.Backpressure.Waiting
import DecisionWorker.Proofs.Binary64.Order
import DecisionWorker.Proofs.Cache.Disposal
import DecisionWorker.Proofs.Cache.Entries
import DecisionWorker.Proofs.Cache.Generations
import DecisionWorker.Proofs.Cache.History
import DecisionWorker.Proofs.Cache.Holdings
import DecisionWorker.Proofs.Cache.Inclusion
import DecisionWorker.Proofs.Cache.Recency
import DecisionWorker.Proofs.Eviction.Courses
import DecisionWorker.Proofs.Eviction.Draining
import DecisionWorker.Proofs.Eviction.Moves
import DecisionWorker.Proofs.Log.Guards
import DecisionWorker.Proofs.Log.Recording
import DecisionWorker.Proofs.Poller.CacheUse
import DecisionWorker.Proofs.Poller.Clearing
import DecisionWorker.Proofs.Poller.Company
import DecisionWorker.Proofs.Poller.Effort
import DecisionWorker.Proofs.Poller.HandlerCalls
import DecisionWorker.Proofs.Poller.Handovers
import DecisionWorker.Proofs.Poller.HoldingBack
import DecisionWorker.Proofs.Poller.Interleaving
import DecisionWorker.Proofs.Poller.LoopSteps
import DecisionWorker.Proofs.Poller.Processing
import DecisionWorker.Proofs.Poller.Recorded
import DecisionWorker.Proofs.Poller.Resumption
import DecisionWorker.Proofs.Poller.Roster
import DecisionWorker.Proofs.Poller.Scheduling
import DecisionWorker.Proofs.Poller.Shutdown
import DecisionWorker.Proofs.Poller.Stopping
import DecisionWorker.Proofs.Poller.Streaks
import DecisionWorker.Proofs.Poller.Tracking
import DecisionWorker.Proofs.Poller.Waits
import DecisionWorker.Proofs.Retry.AttemptLimit
import DecisionWorker.Proofs.Retry.Cancellation
import DecisionWorker.Proofs.Retry.Deadline
import DecisionWorker.Proofs.Retry.History
import DecisionWorker.Proofs.Retry.Timeline
import DecisionWorker.Proofs.Sticky.Balance
import DecisionWorker.Proofs.Sticky.Departures
import DecisionWorker.Proofs.Sticky.DisposalOrder
import DecisionWorker.Proofs.Sticky.Dropping
import DecisionWorker.Proofs.Sticky.Health
import DecisionWorker.Proofs.Sticky.Isolation
import DecisionWorker.Proofs.Sticky.Notices
import DecisionWorker.Proofs.Sticky.Numbering
import DecisionWorker.Proofs.Sticky.Pipeline
import DecisionWorker.Proofs.Sticky.Promptness
import DecisionWorker.Proofs.Sticky.Recollection
import DecisionWorker.Proofs.Sticky.Releases
import DecisionWorker.Proofs.Sticky.Runs
import DecisionWorker.Proofs.Sticky.Silence
import DecisionWorker.Proofs.Sticky.Staleness
import DecisionWorker.Proofs.Sticky.Timing
import DecisionWorker.Retry.Error
import DecisionWorker.Retry.Log
import DecisionWorker.Retry.Loop
import DecisionWorker.Retry.Plan
import DecisionWorker.ServiceError
import DecisionWorker.SetupError
import DecisionWorker.Sticky.Cache
import DecisionWorker.Sticky.Log
import DecisionWorker.Sticky.Move
import DecisionWorker.Sticky.ResetCall
import DecisionWorker.Text.Decimal
import DecisionWorker.Text.Quoted
import DecisionWorker.Text.Record

/-!
A worker for decision tasks, and what can be proved of it.

The modules outside `Proofs` are the worker: the policies that say when to try again (`Backoff`),
the loop that does so (`Retry`), the delay that many callers share (`Backpressure`), the cache of
executions (`Cache`), the dispatcher that reports evictions (`Eviction`) and both together
(`Sticky`), the poll loops (`Poller`), and what is logged (`Log`). The modules under `Proofs` have
the same names as the parts that they are about.
-/
