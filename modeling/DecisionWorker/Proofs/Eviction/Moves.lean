import DecisionWorker.Eviction.Dispatcher

set_option autoImplicit false

/-!
The moves of a dispatcher, one rule for each.

`Moves` lists what a single move can be. The moves possible at one moment come to an end,
because each makes `load` smaller, and the number of moves that `settle` allows is enough
to get there: a settled dispatcher has to wait.
-/

namespace DecisionWorker

namespace DispatchStep

/-- The notice that is decided on: it is skipped, or its call begins. -/
def started? : DispatchStep → Option Eviction
  | .skipped eviction => some eviction
  | .called eviction => some eviction
  | _ => none

def finished? : DispatchStep → Option Eviction
  | .skipped eviction => some eviction
  | .ended eviction _ => some eviction
  | _ => none

def checked? : DispatchStep → Option Eviction
  | .checked eviction => some eviction
  | _ => none

def called? : DispatchStep → Option Eviction
  | .called eviction => some eviction
  | _ => none

def ended? : DispatchStep → Option Eviction
  | .ended eviction _ => some eviction
  | _ => none

end DispatchStep

namespace Dispatcher

def checked (dispatcher : Dispatcher) : List Eviction :=
  match dispatcher.phase with
  | .checked eviction => [eviction]
  | _ => []

def calling (dispatcher : Dispatcher) : List Eviction :=
  match dispatcher.phase with
  | .calling eviction _ _ => [eviction]
  | _ => []

/-- The notice that has left the queue and is not finished. -/
def inFlight (dispatcher : Dispatcher) : List Eviction := dispatcher.checked ++ dispatcher.calling

inductive Moves (service : ResetService) (view : CacheView) (now : Instant) :
    Dispatcher → Dispatcher → DispatchStep → Prop where
  | skip {eviction rest calls} :
      view.stale eviction = true →
      Moves service view now ⟨.waiting, eviction :: rest, calls⟩ ⟨.waiting, rest, calls⟩
        (.skipped eviction)
  | check {eviction rest calls} :
      view.stale eviction = false →
      Moves service view now ⟨.waiting, eviction :: rest, calls⟩ ⟨.checked eviction, rest, calls⟩
        (.checked eviction)
  | call {eviction queue calls} :
      Moves service view now ⟨.checked eviction, queue, calls⟩
        ⟨.calling eviction (now + (service.call calls).1) (service.call calls).2, queue, calls + 1⟩
        (.called eviction)
  | finish {eviction ends ending queue calls} :
      ends ≤ now → ending ≠ .answered .crash →
      Moves service view now ⟨.calling eviction ends ending, queue, calls⟩
        ⟨.waiting, queue, calls⟩ (.ended eviction ending)
  | crash {eviction ends queue calls} :
      ends ≤ now →
      Moves service view now ⟨.calling eviction ends (.answered .crash), queue, calls⟩
        ⟨.crashed, [], calls⟩ (.ended eviction (.answered .crash))
  | stop {calls} :
      view.closed = true →
      Moves service view now ⟨.waiting, [], calls⟩ ⟨.stopped, [], calls⟩ .stopped

theorem phaseAfter_eq_waiting {ending : CallEnding} (answered : ending ≠ .answered .crash) :
    phaseAfter ending = .waiting := by
  rcases ending with ⟨answer⟩ | _
  · cases answer with
    | success => rfl
    | failure error => rfl
    | crash => exact absurd rfl answered
  · rfl

theorem moves_of_step {service : ResetService} {view : CacheView} {now : Instant}
    {dispatcher next : Dispatcher} {happened : DispatchStep}
    (step : dispatcher.step service view now = some (next, happened)) :
    Moves service view now dispatcher next happened := by
  obtain ⟨phase, queue, calls⟩ := dispatcher
  cases phase with
  | waiting =>
      cases queue with
      | nil =>
          simp only [Dispatcher.step, Option.ite_none_right_eq_some, Option.some.injEq,
            Prod.mk.injEq] at step
          obtain ⟨closed, rfl, rfl⟩ := step
          exact .stop closed
      | cons eviction rest =>
          simp only [Dispatcher.step] at step
          split at step
          next stale =>
            cases step
            exact .skip stale
          next fresh =>
            cases step
            exact .check (by simpa using fresh)
  | checked eviction =>
      cases step
      exact .call
  | calling eviction ends ending =>
      simp only [Dispatcher.step, Option.ite_none_right_eq_some, Option.some.injEq,
        Prod.mk.injEq] at step
      obtain ⟨due, rfl, rfl⟩ := step
      by_cases crashed : ending = .answered .crash
      · subst crashed
        exact .crash due
      · rw [phaseAfter_eq_waiting crashed]
        exact .finish due crashed
  | stopped => simp [Dispatcher.step] at step
  | crashed => simp [Dispatcher.step] at step

theorem Moves.goesOn {service : ResetService} {view : CacheView} {now : Instant}
    {dispatcher next : Dispatcher} {happened : DispatchStep}
    (moved : Moves service view now dispatcher next happened) :
    dispatcher.phase ≠ .stopped ∧ dispatcher.phase ≠ .crashed := by
  cases moved <;> simp

section Account

variable {service : ResetService} {view : CacheView} {now : Instant}
  {dispatcher next : Dispatcher} {happened : DispatchStep}

/-- Unless the dispatcher crashes, a move neither loses nor repeats a notice. -/
theorem Moves.account (moved : Moves service view now dispatcher next happened)
    (alive : next.phase ≠ .crashed) :
    dispatcher.inFlight ++ dispatcher.queue =
      happened.finished?.toList ++ next.inFlight ++ next.queue := by
  cases moved with
  | skip | check | call | finish | stop => rfl
  | crash => exact absurd rfl alive

theorem Moves.started (moved : Moves service view now dispatcher next happened) :
    dispatcher.calling ++ happened.started?.toList =
      happened.finished?.toList ++ next.calling := by
  cases moved <;> rfl

theorem Moves.checked (moved : Moves service view now dispatcher next happened) :
    dispatcher.checked ++ happened.checked?.toList =
      happened.called?.toList ++ next.checked := by
  cases moved <;> rfl

theorem Moves.called (moved : Moves service view now dispatcher next happened) :
    dispatcher.calling ++ happened.called?.toList =
      happened.ended?.toList ++ next.calling := by
  cases moved <;> rfl

theorem length_calling_le (dispatcher : Dispatcher) : dispatcher.calling.length ≤ 1 := by
  obtain ⟨phase, queue, calls⟩ := dispatcher
  cases phase with
  | calling => exact Nat.le_refl _
  | waiting | checked | stopped | crashed => exact Nat.zero_le _

theorem length_inFlight_le (dispatcher : Dispatcher) : dispatcher.inFlight.length ≤ 1 := by
  obtain ⟨phase, queue, calls⟩ := dispatcher
  cases phase with
  | checked | calling => exact Nat.le_refl _
  | waiting | stopped | crashed => exact Nat.zero_le _

end Account

/-- The notice in flight, and those that wait for their turn. -/
def pending (dispatcher : Dispatcher) : List Eviction :=
  dispatcher.inFlight ++ dispatcher.queue

/-- The notices that no call has begun about. -/
def uncalled (dispatcher : Dispatcher) : List Eviction :=
  dispatcher.checked ++ dispatcher.queue

theorem length_pending_of_checked (eviction : Eviction) (queue : List Eviction) (calls : Nat) :
    (pending ⟨.checked eviction, queue, calls⟩).length = queue.length + 1 := rfl

theorem length_pending_of_calling (eviction : Eviction) (ends : Instant) (ending : CallEnding)
    (queue : List Eviction) (calls : Nat) :
    (pending ⟨.calling eviction ends ending, queue, calls⟩).length = queue.length + 1 := rfl

theorem Moves.pending {service : ResetService} {view : CacheView} {now : Instant}
    {dispatcher next : Dispatcher} {happened : DispatchStep}
    (moved : Moves service view now dispatcher next happened) {eviction : Eviction}
    (waits : eviction ∈ next.pending) : eviction ∈ dispatcher.pending := by
  cases moved with
  | skip => exact List.mem_cons_of_mem _ waits
  | check => exact waits
  | call => exact waits
  | finish => exact List.mem_cons_of_mem _ waits
  | crash => cases waits
  | stop => cases waits

theorem Moves.length_pending_le {service : ResetService} {view : CacheView} {now : Instant}
    {dispatcher next : Dispatcher} {happened : DispatchStep}
    (moved : Moves service view now dispatcher next happened) :
    next.pending.length ≤ dispatcher.pending.length := by
  cases moved with
  | skip => exact Nat.le_succ _
  | check => exact Nat.le_refl _
  | call => exact Nat.le_refl _
  | finish => exact Nat.le_succ _
  | crash => exact Nat.zero_le _
  | stop => exact Nat.le_refl _

theorem Moves.length_pending_lt {service : ResetService} {view : CacheView} {now ends : Instant}
    {dispatcher next : Dispatcher} {happened : DispatchStep}
    (moved : Moves service view now dispatcher next happened)
    (timer : dispatcher.timer? = some ends) :
    next.pending.length < dispatcher.pending.length := by
  cases moved with
  | skip => cases timer
  | check => cases timer
  | call => cases timer
  | finish => exact Nat.lt_succ_self _
  | crash => exact Nat.succ_pos _
  | stop => cases timer

theorem length_pending_le (dispatcher : Dispatcher) :
    dispatcher.pending.length ≤ dispatcher.queue.length + 1 := by
  have single := dispatcher.length_inFlight_le
  rw [pending, List.length_append]
  omega

theorem timer?_of_pending {dispatcher : Dispatcher} (none : dispatcher.pending = []) :
    dispatcher.timer? = Option.none := by
  obtain ⟨phase, queue, calls⟩ := dispatcher
  cases phase with
  | calling eviction ends ending => cases none
  | waiting | checked | stopped | crashed => rfl

/-- A bound on the moves that are left before the clock has to move. -/
def load (dispatcher : Dispatcher) : Nat :=
  match dispatcher.phase with
  | .waiting => 3 * dispatcher.queue.length + 1
  | .checked _ => 3 * dispatcher.queue.length + 3
  | .calling _ _ _ => 3 * dispatcher.queue.length + 2
  | .stopped => 0
  | .crashed => 0

theorem load_le (dispatcher : Dispatcher) :
    dispatcher.load ≤ 3 * dispatcher.queue.length + 3 := by
  unfold load
  split <;> omega

theorem Moves.load_lt {service : ResetService} {view : CacheView} {now : Instant}
    {dispatcher next : Dispatcher} {happened : DispatchStep}
    (moved : Moves service view now dispatcher next happened) :
    next.load < dispatcher.load := by
  cases moved <;> simp only [load, List.length_cons, List.length_nil] <;> omega

theorem step_settleWithin {service : ResetService} {view : CacheView} {now : Instant}
    {moves : Nat} {dispatcher : Dispatcher} (enough : dispatcher.load ≤ moves) :
    (settleWithin service view now moves dispatcher).1.step service view now = none := by
  induction moves generalizing dispatcher with
  | zero =>
      cases step : dispatcher.step service view now with
      | none => exact step
      | some moved =>
          have smaller := (moves_of_step step).load_lt
          omega
  | succ moves inductionHypothesis =>
      unfold settleWithin
      cases step : dispatcher.step service view now with
      | none => exact step
      | some moved =>
          have smaller := (moves_of_step step).load_lt
          exact inductionHypothesis (by omega)

theorem step_settle (dispatcher : Dispatcher) (service : ResetService) (view : CacheView)
    (now : Instant) : (dispatcher.settle service view now).1.step service view now = none :=
  step_settleWithin dispatcher.load_le

theorem length_pending_settleWithin (service : ResetService) (view : CacheView) (now : Instant)
    (moves : Nat) (dispatcher : Dispatcher) :
    (settleWithin service view now moves dispatcher).1.pending.length ≤
      dispatcher.pending.length := by
  induction moves generalizing dispatcher with
  | zero => exact Nat.le_refl _
  | succ moves inductionHypothesis =>
      unfold settleWithin
      cases step : dispatcher.step service view now with
      | none => exact Nat.le_refl _
      | some moved =>
          have fewer := (moves_of_step step).length_pending_le
          exact Nat.le_trans (inductionHypothesis moved.1) fewer

theorem queue_of_waits {service : ResetService} {view : CacheView} {now : Instant}
    {queue : List Eviction} {calls : Nat}
    (waits : Dispatcher.step ⟨.waiting, queue, calls⟩ service view now = none) : queue = [] := by
  cases queue with
  | nil => rfl
  | cons eviction rest =>
      simp only [Dispatcher.step] at waits
      split at waits <;> cases waits

theorem lt_timer_of_step_eq_none {service : ResetService} {view : CacheView}
    {now ends : Instant} {dispatcher : Dispatcher}
    (waits : dispatcher.step service view now = none) (timer : dispatcher.timer? = some ends) :
    now < ends := by
  obtain ⟨phase, queue, calls⟩ := dispatcher
  cases phase with
  | calling eviction due ending =>
      simp only [timer?, Option.some.injEq] at timer
      simp only [Dispatcher.step, ite_eq_right_iff, reduceCtorEq, imp_false] at waits
      subst timer
      simp only [Duration.le_iff, Duration.lt_iff] at waits ⊢
      omega
  | waiting | checked | stopped | crashed => simp [timer?] at timer

/-- A call that is due is over once the dispatcher has settled. -/
theorem length_pending_settle_lt {service : ResetService} {view : CacheView} {now ends : Instant}
    {dispatcher : Dispatcher} (timer : dispatcher.timer? = some ends) (due : ends ≤ now) :
    (dispatcher.settle service view now).1.pending.length < dispatcher.pending.length := by
  rw [settle, settleWithin]
  cases step : dispatcher.step service view now with
  | none => exact absurd due (Nat.not_le_of_lt (lt_timer_of_step_eq_none step timer))
  | some moved =>
      have fewer := (moves_of_step step).length_pending_lt timer
      exact Nat.lt_of_le_of_lt (length_pending_settleWithin _ _ _ _ moved.1) fewer

end Dispatcher

end DecisionWorker
