import DecisionWorker.Backoff.Exponential.Delay

set_option autoImplicit false

/-!
When an exponential policy stops, and how long it lets one wait otherwise.

A policy stops for one of two reasons only: its attempts are spent, or less time is left than
the initial interval. In all other cases it answers with a wait that chance may shorten but not
lengthen, so that a policy with a time limit never lets one wait beyond it.
-/

namespace DecisionWorker

namespace ExponentialSettings

/-- A policy is made of settings, by building or by clamping it. -/
def Yields (settings : ExponentialSettings) (policy : ExponentialPolicy) : Prop :=
  settings.build = .ok policy ∨ settings.clamp = policy

variable {settings : ExponentialSettings} {policy : ExponentialPolicy}

theorem policy_of_build (built : settings.build = .ok policy) : settings.policy = policy := by
  unfold build at built
  split at built
  · cases built
  · exact Except.ok.inj built

/-- Clamping moves no limit. -/
theorem Yields.attempts (yields : settings.Yields policy) :
    policy.attempts = settings.attempts := by
  rcases yields with built | rfl
  · rw [← policy_of_build built]
    rfl
  · rfl

theorem Yields.expiration (yields : settings.Yields policy) :
    policy.expiration = settings.limit := by
  rcases yields with built | rfl
  · rw [← policy_of_build built]
    rfl
  · rfl

end ExponentialSettings

namespace ExponentialPolicy

/-- The ways to come by a policy. -/
inductive Made : ExponentialPolicy → Prop
  | built {settings : ExponentialSettings} {policy : ExponentialPolicy} :
      settings.build = .ok policy → Made policy
  | clamped (settings : ExponentialSettings) : Made settings.clamp
  | ofDefaults : Made ofDefaults

/-- No policy starts with a delay of no length. -/
theorem Made.initial_ne_zero {policy : ExponentialPolicy} (made : policy.Made) :
    policy.initial ≠ .zero := by
  cases made with
  | @built settings _ built =>
      rw [← ExponentialSettings.policy_of_build built]
      intro empty
      have faulty : settings.fault? ≠ none := by
        unfold ExponentialSettings.fault?
        split
        next => exact nofun
        next =>
          rw [if_pos (show settings.initial = .zero from empty)]
          exact nofun
      unfold ExponentialSettings.build at built
      split at built
      next => cases built
      next sound => exact faulty sound
  | clamped settings =>
      intro empty
      have short : (Duration.ofMilliseconds 1).nanoseconds ≤ settings.clamp.initial.nanoseconds :=
        Nat.le_max_right _ _
      rw [empty] at short
      exact absurd short (by decide)
  | ofDefaults => decide

variable {policy : ExponentialPolicy} {attempt random : Nat} {elapsed delay : Duration}

def AttemptsSpent (policy : ExponentialPolicy) (attempt : Nat) : Prop :=
  0 < policy.attempts ∧ policy.attempts < attempt

/-- Not even the shortest delay fits into the time that is left, if the policy limits it. -/
def TimeSpent (policy : ExponentialPolicy) (elapsed : Duration) : Prop :=
  ∃ expiration, policy.expiration = some expiration ∧
    (expiration ≤ elapsed ∨ expiration - elapsed < policy.initial)

theorem AttemptsSpent.mono (spent : policy.AttemptsSpent attempt) {more : Nat}
    (further : attempt ≤ more) : policy.AttemptsSpent more :=
  ⟨spent.1, Nat.lt_of_lt_of_le spent.2 further⟩

theorem TimeSpent.mono (spent : policy.TimeSpent elapsed) {later : Duration}
    (passes : elapsed ≤ later) : policy.TimeSpent later := by
  obtain ⟨expiration, limited, late | short⟩ := spent
  · exact ⟨expiration, limited, .inl (Nat.le_trans late passes)⟩
  · exact ⟨expiration, limited,
      .inr (Nat.lt_of_le_of_lt (Nat.sub_le_sub_left passes _) short)⟩

/-- No time is spent at the start, unless there never is enough of it. -/
theorem timeSpent_zero_iff (made : policy.Made) :
    policy.TimeSpent .zero ↔
      ∃ expiration, policy.expiration = some expiration ∧ expiration < policy.initial := by
  have positive : 0 < policy.initial.nanoseconds := by
    apply Nat.pos_of_ne_zero
    intro empty
    exact made.initial_ne_zero (congrArg Duration.mk empty)
  constructor
  · rintro ⟨expiration, limited, late | short⟩
    · exact ⟨expiration, limited, Nat.lt_of_le_of_lt late positive⟩
    · exact ⟨expiration, limited, short⟩
  · rintro ⟨expiration, limited, short⟩
    exact ⟨expiration, limited, .inr short⟩

theorem baseDelay_eq_stop_iff :
    policy.baseDelay attempt elapsed = .stop ↔
      policy.AttemptsSpent attempt ∨ policy.TimeSpent elapsed := by
  unfold baseDelay AttemptsSpent TimeSpent
  by_cases spent : 0 < policy.attempts ∧ policy.attempts < attempt
  · simp [spent]
  · rw [if_neg spent]
    cases policy.expiration with
    | none => simp [spent]
    | some expiration =>
        by_cases late : expiration ≤ elapsed
        · simp [late]
        · by_cases short : expiration - elapsed < policy.initial
          · simp [late, short]
          · simp [spent, late, short]

theorem baseDelay_le_remaining {expiration : Duration}
    (limited : policy.expiration = some expiration)
    (waits : policy.baseDelay attempt elapsed = .wait delay) :
    elapsed ≤ expiration ∧ delay ≤ expiration - elapsed := by
  unfold baseDelay at waits
  simp only [limited] at waits
  split at waits
  next => cases waits
  next =>
    split at waits
    next => cases waits
    next early =>
      split at waits
      next => cases waits
      next =>
        cases waits
        exact ⟨Nat.le_of_not_le early, Nat.min_le_right _ _⟩

theorem leastOf_le (policy : ExponentialPolicy) (delay : Duration) :
    policy.leastOf delay ≤ delay := by
  simp only [leastOf]
  split
  next => exact Nat.le_refl _
  next => exact Nat.min_le_right _ _

theorem pick_le {least greatest : Duration} (ordered : least ≤ greatest) (random : Nat) :
    pick least greatest random ≤ greatest := by
  have size : 0 < greatest.nanoseconds - least.nanoseconds + 1 := Nat.succ_pos _
  have point := Nat.mod_lt random size
  simp only [Duration.le_iff, pick, Duration.nanoseconds_add] at ordered ⊢
  omega

theorem nextDelay_eq_stop_iff :
    policy.nextDelay random attempt elapsed = .stop ↔
      policy.AttemptsSpent attempt ∨ policy.TimeSpent elapsed := by
  rw [← baseDelay_eq_stop_iff]
  unfold nextDelay
  cases policy.baseDelay attempt elapsed with
  | stop => exact Iff.rfl
  | wait base =>
      dsimp only
      split <;> simp

theorem nextDelay_ne_stop (unlimited : policy.expiration = none)
    (left : ¬ policy.AttemptsSpent attempt) :
    policy.nextDelay random attempt elapsed ≠ .stop := by
  intro stops
  rcases nextDelay_eq_stop_iff.mp stops with spent | ⟨expiration, limited, -⟩
  · exact left spent
  · cases unlimited.symm.trans limited

/-- Chance only shortens a delay. -/
theorem exists_baseDelay_of_wait (waits : policy.nextDelay random attempt elapsed = .wait delay) :
    ∃ base, policy.baseDelay attempt elapsed = .wait base ∧ delay ≤ base := by
  unfold nextDelay at waits
  cases based : policy.baseDelay attempt elapsed with
  | stop =>
      rw [based] at waits
      cases waits
  | wait base =>
      rw [based] at waits
      refine ⟨base, rfl, ?_⟩
      dsimp only at waits
      split at waits
      · cases waits
        exact pick_le (policy.leastOf_le base) random
      · cases waits
        exact Nat.le_refl _

theorem nextDelay_le_remaining {expiration : Duration}
    (limited : policy.expiration = some expiration)
    (waits : policy.nextDelay random attempt elapsed = .wait delay) :
    elapsed ≤ expiration ∧ delay ≤ expiration - elapsed := by
  obtain ⟨base, based, shorter⟩ := exists_baseDelay_of_wait waits
  obtain ⟨early, fits⟩ := baseDelay_le_remaining limited based
  exact ⟨early, Nat.le_trans shorter fits⟩

end ExponentialPolicy

end DecisionWorker
