import DecisionWorker.Proofs.Eviction.Courses
import DecisionWorker.Proofs.Eviction.Moves

set_option autoImplicit false

/-!
What a dispatcher has still to do once its cache is gone.

Nothing is stale any more and nothing more can come, so all that is left is fixed: the notice in
flight is finished, there is a call for each notice that waits, and then the dispatcher stops
(`remaining`). Every move takes the first step of what is left (`Moves.remaining`). The time
that it takes is bounded too, since no call is longer than the timeout (`busyUntil`).
-/

namespace DecisionWorker

namespace ResetService

/-- The calls about some notices, one after the other, and then the end. -/
def errands (service : ResetService) : (calls : Nat) → List Eviction → List DispatchStep
  | _, [] => [.stopped]
  | calls, eviction :: rest =>
      .checked eviction :: .called eviction :: .ended eviction (service.call calls).2 ::
        errands service (calls + 1) rest

theorem called_errands (service : ResetService) (calls : Nat) (queue : List Eviction) :
    (service.errands calls queue).filterMap DispatchStep.called? = queue := by
  induction queue generalizing calls with
  | nil => rfl
  | cons eviction rest inductionHypothesis =>
      simp [errands, DispatchStep.called?, List.filterMap_cons, inductionHypothesis]

theorem skipped_not_mem_errands (service : ResetService) (calls : Nat) (queue : List Eviction)
    (eviction : Eviction) : .skipped eviction ∉ service.errands calls queue := by
  induction queue generalizing calls with
  | nil => simp [errands]
  | cons first rest inductionHypothesis => simp [errands, inductionHypothesis]

/-- The end comes last, and once. -/
theorem errands_eq_concat (service : ResetService) (calls : Nat) (queue : List Eviction) :
    ∃ work, service.errands calls queue = work ++ [.stopped] ∧ .stopped ∉ work := by
  induction queue generalizing calls with
  | nil => exact ⟨[], rfl, nofun⟩
  | cons eviction rest inductionHypothesis =>
      obtain ⟨work, split, endless⟩ := inductionHypothesis (calls + 1)
      refine ⟨.checked eviction :: .called eviction :: .ended eviction (service.call calls).2 ::
        work, ?_, ?_⟩
      · rw [errands, split]
        rfl
      · simpa using endless

theorem call_le (service : ResetService) (number : Nat) :
    (service.call number).1 ≤ service.timeout.roundUp := by
  simp only [call]
  cases (service.behaviour number).latency with
  | none => exact Nat.le_refl _
  | some latency =>
      by_cases inTime : latency.roundUp ≤ service.timeout.roundUp
      · simpa only [if_pos inTime] using inTime
      · simp only [if_neg inTime]
        exact Nat.le_refl _

end ResetService

namespace Dispatcher

/-- All that is left to do when nothing is stale and nothing more can come. -/
def remaining (service : ResetService) (dispatcher : Dispatcher) : List DispatchStep :=
  match dispatcher.phase with
  | .waiting => service.errands dispatcher.calls dispatcher.queue
  | .checked eviction =>
      .called eviction :: .ended eviction (service.call dispatcher.calls).2 ::
        service.errands (dispatcher.calls + 1) dispatcher.queue
  | .calling eviction _ ending =>
      .ended eviction ending :: service.errands dispatcher.calls dispatcher.queue
  | .stopped => []
  | .crashed => []

/-- When all that is left is done at the latest. -/
def busyUntil (service : ResetService) (now : Instant) (dispatcher : Dispatcher) : Instant :=
  let calls := Duration.times dispatcher.queue.length service.timeout.roundUp
  match dispatcher.phase with
  | .waiting => now + calls
  | .checked _ => now + service.timeout.roundUp + calls
  | .calling _ ends _ => max now ends + calls
  | .stopped => .zero
  | .crashed => .zero

section Script

variable {service : ResetService} {dispatcher : Dispatcher}

theorem called_remaining (present : dispatcher.running = true) :
    (dispatcher.remaining service).filterMap DispatchStep.called? = dispatcher.uncalled := by
  obtain ⟨phase, queue, calls⟩ := dispatcher
  cases phase with
  | waiting => exact service.called_errands calls queue
  | checked | calling =>
      simp [remaining, uncalled, checked, DispatchStep.called?, List.filterMap_cons,
        service.called_errands]
  | stopped | crashed => cases present

theorem skipped_not_mem_remaining (service : ResetService) (dispatcher : Dispatcher)
    (eviction : Eviction) : .skipped eviction ∉ dispatcher.remaining service := by
  have none := fun calls =>
    service.skipped_not_mem_errands calls dispatcher.queue eviction
  obtain ⟨phase, queue, calls⟩ := dispatcher
  cases phase with
  | waiting => exact none calls
  | checked => simpa [remaining] using none (calls + 1)
  | calling => simpa [remaining] using none calls
  | stopped | crashed => exact nofun

theorem remaining_eq_concat (present : dispatcher.running = true) :
    ∃ work, dispatcher.remaining service = work ++ [.stopped] ∧ .stopped ∉ work := by
  obtain ⟨phase, queue, calls⟩ := dispatcher
  cases phase with
  | waiting => exact service.errands_eq_concat calls queue
  | checked eviction =>
      obtain ⟨work, split, endless⟩ := service.errands_eq_concat (calls + 1) queue
      refine ⟨.called eviction :: .ended eviction (service.call calls).2 :: work, ?_,
        by simpa using endless⟩
      simp only [remaining, split]
      rfl
  | calling eviction ends ending =>
      obtain ⟨work, split, endless⟩ := service.errands_eq_concat calls queue
      refine ⟨.ended eviction ending :: work, ?_, by simpa using endless⟩
      simp only [remaining, split]
      rfl
  | stopped | crashed => cases present

theorem remaining_eq_nil_iff (alive : dispatcher.phase ≠ .crashed) :
    dispatcher.remaining service = [] ↔ dispatcher.phase = .stopped := by
  obtain ⟨phase, queue, calls⟩ := dispatcher
  cases phase with
  | waiting => cases queue <;> simp [remaining, ResetService.errands]
  | checked | calling => simp [remaining]
  | stopped => simp [remaining]
  | crashed => exact absurd rfl alive

end Script

section Steps

variable {service : ResetService} {view : CacheView} {now : Instant}
  {dispatcher next : Dispatcher} {happened : DispatchStep}

/-- A move does the first thing that is left to do. -/
theorem Moves.remaining (moved : Moves service view now dispatcher next happened)
    (fresh : ∀ eviction, view.stale eviction = false) (alive : next.phase ≠ .crashed) :
    dispatcher.remaining service = happened :: next.remaining service := by
  cases moved with
  | @skip eviction _ _ stale => simp [fresh eviction] at stale
  | check | call | finish | stop => rfl
  | crash => exact absurd rfl alive

/-- A call that begins now ends within one timeout from now. -/
theorem Moves.timer_le (moved : Moves service view now dispatcher next happened) {ends : Instant}
    (timer : next.timer? = some ends) : ends ≤ now + service.timeout.roundUp := by
  cases moved with
  | call =>
      cases timer
      exact Nat.add_le_add_left (service.call_le _) _
  | skip | check | finish | crash | stop => cases timer

/-- No move puts the end off. -/
theorem Moves.busyUntil_le (moved : Moves service view now dispatcher next happened) :
    next.busyUntil service now ≤ dispatcher.busyUntil service now := by
  cases moved with
  | skip =>
      apply Nat.add_le_add_left
      exact Nat.mul_le_mul_right _ (Nat.le_succ _)
  | check =>
      simp only [busyUntil, Duration.le_iff, Duration.nanoseconds_add, Duration.times,
        List.length_cons, Nat.add_mul, Nat.one_mul]
      omega
  | @call eviction queue calls =>
      have bound : (service.call calls).1.nanoseconds ≤ service.timeout.roundUp.nanoseconds :=
        service.call_le calls
      simp only [busyUntil, Duration.le_iff, Duration.nanoseconds_add, Duration.nanoseconds_max]
      omega
  | finish => exact Nat.add_le_add_right (Nat.le_max_left _ _) _
  | crash => exact Nat.zero_le _
  | stop => exact Nat.zero_le _

theorem calling_of_waits (closed : view.closed = true) (alive : dispatcher.phase ≠ .crashed)
    (goesOn : dispatcher.phase ≠ .stopped) (waits : dispatcher.step service view now = none) :
    ∃ ends, dispatcher.timer? = some ends ∧ now < ends := by
  obtain ⟨phase, queue, calls⟩ := dispatcher
  cases phase with
  | waiting =>
      obtain rfl := queue_of_waits waits
      simp [Dispatcher.step, closed] at waits
  | checked eviction => cases waits
  | calling eviction ends ending => exact ⟨ends, rfl, lt_timer_of_step_eq_none waits rfl⟩
  | stopped => exact absurd rfl goesOn
  | crashed => exact absurd rfl alive

end Steps

/-- The time that is left is at most one timeout for each notice that is not finished. -/
theorem busyUntil_le {service : ResetService} {now : Instant} {dispatcher : Dispatcher}
    (bounded : ∀ ends, dispatcher.timer? = some ends → ends ≤ now + service.timeout.roundUp) :
    dispatcher.busyUntil service now ≤
      now + .times dispatcher.pending.length service.timeout.roundUp := by
  obtain ⟨phase, queue, calls⟩ := dispatcher
  cases phase with
  | waiting => exact Nat.le_refl _
  | checked eviction =>
      simp only [busyUntil, length_pending_of_checked, Duration.le_iff, Duration.nanoseconds_add,
        Duration.times, Nat.add_mul, Nat.one_mul]
      omega
  | calling eviction ends ending =>
      have inTime : ends.nanoseconds ≤ now.nanoseconds + service.timeout.roundUp.nanoseconds :=
        bounded ends rfl
      simp only [busyUntil, length_pending_of_calling, Duration.le_iff, Duration.nanoseconds_add,
        Duration.nanoseconds_max, Duration.times, Nat.add_mul, Nat.one_mul]
      omega
  | stopped => exact Nat.zero_le _
  | crashed => exact Nat.zero_le _

theorem timer_le_busyUntil {service : ResetService} {now ends : Instant} {dispatcher : Dispatcher}
    (timer : dispatcher.timer? = some ends) : ends ≤ dispatcher.busyUntil service now := by
  obtain ⟨phase, queue, calls⟩ := dispatcher
  cases phase with
  | calling eviction due ending =>
      cases timer
      exact Nat.le_trans (Nat.le_max_right _ _) (Nat.le_add_right _ _)
  | waiting | checked | stopped | crashed => cases timer

/-- Until the call in progress ends, the time that is left shrinks as the clock runs. -/
theorem busyUntil_le_of_timer {service : ResetService} {now later ends : Instant}
    {dispatcher : Dispatcher} (timer : dispatcher.timer? = some ends) (inTime : later ≤ ends) :
    dispatcher.busyUntil service later ≤ dispatcher.busyUntil service now := by
  obtain ⟨phase, queue, calls⟩ := dispatcher
  cases phase with
  | calling eviction due ending =>
      cases timer
      apply Nat.add_le_add_right
      exact Nat.max_le.mpr ⟨Nat.le_trans inTime (Nat.le_max_right _ _), Nat.le_max_right _ _⟩
  | waiting | checked | stopped | crashed => cases timer

end Dispatcher

end DecisionWorker
