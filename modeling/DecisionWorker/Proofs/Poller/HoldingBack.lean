import DecisionWorker.Proofs.Poller.Streaks

set_option autoImplicit false

/-!
How long the loops of a poller hold back.

A loop asks when it begins, and then waits for as long as it was told at that moment: what other
loops report in the meantime changes nothing about a wait that has begun. `HoldsBack` says so for
one point of a run, and `loops_hold_back_together` for every point.
-/

namespace DecisionWorker.PollerState

/-- Where a loop goes after it has been told how long to hold back. -/
def heldBack (now : Instant) : Option Duration → LoopPhase
  | none => .poll
  | some delay => .holding (now + delay.timer)

section HoldsBack

variable {poller : Poller} {current : PollerState} {loop : Nat}

theorem asks_of_throttle {row : List Instant} (steady : poller.backpressure.Steady)
    (sharing : Sharing poller current.shared row)
    (stands : current.loops[loop]? = some .throttle) :
    ∃ delay, holdBack poller current.shared.consultations current.now row = .ok delay ∧
      (current.proceed poller (.own (.task (.loop loop)))).1.loops[loop]? =
        some (heldBack current.now delay) ∧
      (current.proceed poller (.own (.task (.loop loop)))).2 = [.throttled loop delay] := by
  have step : stepLoop poller current loop = some (current.throttle loop) := by
    simp [stepLoop, stands]
  have inside : loop < current.loops.length := (List.getElem?_eq_some_iff.mp stands).1
  obtain ⟨delay, told⟩ := exists_holdBack steady current.shared.consultations current.now row
  have asked : (current.shared.delay current.now).delay = .ok delay :=
    (sharing.delay current.now).trans told
  refine ⟨delay, told, ?_⟩
  rw [proceed_loop step]
  cases delay <;> simp [throttle, asked, setLoop, heldBack, inside]

end HoldsBack

section Bounds

def refusal : ServiceError := .reported false "refused"

/-- A poller with one loop and a service that refuses every call at once. Its policy would have
the loop wait if it were ever asked about a later attempt than the greatest. -/
def hopeless : Poller where
  taskList := "tasks"
  loops := 1
  pollRetry := ⟨fun _ _ _ => .ok .stop⟩
  backpressure := ⟨fun _ attempt _ =>
    .ok (if attempt ≤ greatestAttempt then .stop else .wait (.ofMilliseconds 1))⟩
  resets := ⟨.ofSeconds 10, fun _ => ⟨none, .success⟩⟩
  service := fun _ => ⟨.zero, .failure refusal⟩
  handler := fun _ => ⟨.zero, .keep⟩

theorem steady_hopeless : hopeless.backpressure.Steady := nofun

/-- The loop is about to ask after so many refusals at the start of the clock. -/
structure Refused (current : PollerState) (times : Nat) : Prop where
  loops : current.loops = [.throttle]
  going : current.cancelled = false
  now : current.now = .zero
  sharing : Sharing hopeless current.shared (List.replicate times .zero)

variable {current : PollerState} {times : Nat}

theorem holdBack_hopeless (consultation : Nat) (now : Instant) (row : List Instant) :
    holdBack hopeless consultation now row = .ok none := by
  cases row with
  | nil => rfl
  | cons first rest =>
      have asked : min (rest.length + 1) greatestAttempt ≤ greatestAttempt := Nat.min_le_right _ _
      simp only [holdBack, hopeless, asked, if_true]
      rfl

theorem Refused.again (refused : Refused current times) :
    Refused (current.after hopeless (List.replicate 3 (.own (.task (.loop 0))))) (times + 1) ∧
      current.endedPolls hopeless (List.replicate 3 (.own (.task (.loop 0)))) =
        [(.zero, .error refusal)] := by
  obtain ⟨loops, going, now, sharing⟩ := refused
  have free : (current.shared.delay current.now).delay = .ok none :=
    (sharing.delay current.now).trans (holdBack_hopeless _ _ _)
  have asks : stepLoop hopeless current 0 = some
      ({ current with
          shared := (current.shared.delay current.now).shared
          loops := [.poll] }, [.throttled 0 none]) := by
    simp [stepLoop, loops, throttle, free, setLoop]
  have asked := sharing.ask steady_hopeless current.now
  generalize (current.shared.delay current.now).shared = shared at asks asked
  have calls : stepLoop hopeless { current with shared, loops := [.poll] } 0 = some
      ({ current with
          shared
          polls := current.polls + 1
          loops := [.calling ⟨.zero, 0⟩ .zero (.failure refusal)] }, [.called 0]) := by
    simp [stepLoop, going, now, PollerState.call, setLoop, hopeless]
    rfl
  have due : Duration.zero ≤ Duration.zero := Nat.le_refl _
  have fails : stepLoop hopeless
      { current with
          shared
          polls := current.polls + 1
          loops := [.calling ⟨.zero, 0⟩ .zero (.failure refusal)] } 0 = some
        ({ current with
            shared := { shared with streak := shared.streak.failed .zero }
            polls := current.polls + 1
            loops := [.throttle] },
          [.pollFailed 0 (shared.streak.failed .zero).failures refusal]) := by
    simp [stepLoop, going, due, now, answered, callFailed, RetryPlan.consider, RetryPlan.accepts,
      pollPlan, refusal, ServiceError.isTransient, PollerState.fail, Backpressure.failed,
      asked.usable, setLoop]
  have late : ¬ Duration.zero < Duration.zero := Nat.lt_irrefl _
  constructor
  · simp only [List.replicate, after_cons, after_nil, proceed_loop asks, proceed_loop calls,
      proceed_loop fails]
    refine ⟨rfl, going, now, ?_⟩
    rw [List.replicate_succ']
    exact asked.failed .zero
  · simp only [List.replicate, endedPolls, proceed_loop asks, proceed_loop calls, endedPoll?,
      pollEnd?]
    simp [loops, going, late, pollResult?, GivesUp, refusal, ServiceError.isTransient, now]

theorem Refused.count (refused : Refused current times) :
    current.shared.failureCount = .ok (min times Streak.greatest) := by
  rw [refused.sharing.failureCount, List.length_replicate]

theorem Refused.asks (refused : Refused current times) :
    (current.proceed hopeless (.own (.task (.loop 0)))).2 = [.throttled 0 none] := by
  have stands : current.loops[0]? = some .throttle := by rw [refused.loops]; rfl
  obtain ⟨delay, told, -, throttled⟩ := asks_of_throttle steady_hopeless refused.sharing stands
  rw [holdBack_hopeless] at told
  cases told
  exact throttled

end Bounds

end DecisionWorker.PollerState
