import DecisionWorker.Proofs.Backoff.Delays
import Mathlib.Data.Nat.PSub

set_option autoImplicit false

/-!
What an exponential policy answers at every attempt and time, whatever chance does.

Up to three limits bound a delay: the grown interval, the maximum, and the time that is left. Unless
the policy stops, chance draws a delay between the least of these limits (`Base`) and what jitter
leaves of it (`lowest`), and every delay in between can be drawn.

Differences of natural numbers are cut off at zero, so that an answer always comes out.
`nextDelay?` computes the answer with differences that fail below zero instead, and with a drawing
that fails if there is nothing to draw from; `nextDelay?_eq` says that it gives the same answers.
-/

namespace DecisionWorker

namespace Duration

/-- The time from the second moment to the first, if the second is not later. -/
def sub? (left right : Duration) : Option Duration :=
  (left.nanoseconds.psub right.nanoseconds).map mk

theorem sub?_of_le {left right : Duration} (ordered : right ≤ left) :
    left.sub? right = some (left - right) := by
  rw [sub?, Nat.psub_eq_sub ordered]
  rfl

theorem ofSeconds?_le_longest {number : Binary64} {duration : Duration}
    (converted : ofSeconds? number = some duration) : duration ≤ longest := by
  simp only [ofSeconds?] at converted
  split at converted
  next => cases converted
  next => cases converted
  next =>
    split at converted
    next => cases converted
    next =>
      split at converted
      next fits =>
        cases converted
        exact fits
      next => cases converted

/-- It is one of these durations, and none of them is less. -/
structure Least (durations : List Duration) (duration : Duration) : Prop where
  member : duration ∈ durations
  le : ∀ other ∈ durations, duration ≤ other

theorem least_singleton (duration : Duration) : Least [duration] duration where
  member := List.mem_cons_self
  le other member := by
    rw [List.mem_singleton.mp member]
    exact Nat.le_refl _

theorem Least.cons {durations : List Duration} {duration : Duration}
    (least : Least durations duration) (first : Duration) :
    Least (first :: durations) (min duration first) where
  member := by
    rcases Nat.le_total duration.nanoseconds first.nanoseconds with below | above
    · rw [min_eq_left below]
      exact List.mem_cons_of_mem _ least.member
    · rw [min_eq_right above]
      exact List.mem_cons_self
  le other member := by
    rcases List.mem_cons.mp member with rfl | later
    · exact Nat.min_le_right _ _
    · exact Nat.le_trans (Nat.min_le_left _ _) (least.le other later)

end Duration

namespace ExponentialPolicy

variable {policy : ExponentialPolicy} {attempt random : Nat} {elapsed later base : Duration}

/-- What bounds a delay before chance comes in: the time that is left, the maximum, and the grown
interval, or the longest duration if that is none. -/
def limits (policy : ExponentialPolicy) (attempt : Nat) (elapsed : Duration) : List Duration :=
  let grown := policy.initial.seconds.mul (policy.coefficient.power (growth attempt))
  (policy.expiration.map (· - elapsed)).toList ++
    (policy.maximum.toList ++ [(Duration.ofSeconds? grown).getD .longest])

/-- The longest delay that there can be. -/
def Base (policy : ExponentialPolicy) (attempt : Nat) (elapsed base : Duration) : Prop :=
  Duration.Least (policy.limits attempt elapsed) base

def lowest (policy : ExponentialPolicy) (base : Duration) : Duration :=
  if (Binary64.zero false).lt policy.jitter then policy.leastOf base else base

theorem base_of_baseDelay (waits : policy.baseDelay attempt elapsed = .wait base) :
    policy.Base attempt elapsed base := by
  have capped : Duration.Least (policy.maximum.toList ++ [policy.scaled attempt])
      (policy.capped attempt) := by
    unfold ExponentialPolicy.capped
    cases policy.maximum with
    | none => exact Duration.least_singleton _
    | some maximum => exact (Duration.least_singleton _).cons maximum
  unfold baseDelay at waits
  unfold Base limits
  split at waits
  next => cases waits
  next =>
    cases limited : policy.expiration with
    | none =>
        rw [limited] at waits
        cases waits
        exact capped
    | some expiration =>
        rw [limited] at waits
        dsimp only at waits
        split at waits
        next => cases waits
        next =>
          split at waits
          next => cases waits
          next =>
            cases waits
            exact capped.cons (expiration - elapsed)

theorem Base.le_longest (bounds : policy.Base attempt elapsed base) : base ≤ .longest := by
  have grown := bounds.le _ (List.mem_append_right _ (List.mem_append_right _ List.mem_cons_self))
  refine Nat.le_trans grown ?_
  cases converted : Duration.ofSeconds?
      (policy.initial.seconds.mul (policy.coefficient.power (growth attempt))) with
  | none => exact Nat.le_refl _
  | some duration => exact Duration.ofSeconds?_le_longest converted

theorem Base.le_of_later {less : Duration} (passes : elapsed ≤ later)
    (bounds : policy.Base attempt elapsed base) (boundsLater : policy.Base attempt later less) :
    less ≤ base := by
  rcases List.mem_append.mp bounds.member with remains | fixed
  · obtain ⟨expiration, limited, rfl⟩ := Option.map_eq_some_iff.mp (Option.mem_toList.mp remains)
    have shorter : less ≤ expiration - later := by
      apply boundsLater.le
      rw [limits, limited]
      exact List.mem_cons_self
    exact Nat.le_trans shorter (Nat.sub_le_sub_left passes _)
  · exact boundsLater.le base (List.mem_append_right _ fixed)

theorem lowest_le (policy : ExponentialPolicy) (base : Duration) : policy.lowest base ≤ base := by
  unfold lowest
  split
  next => exact policy.leastOf_le base
  next => exact Nat.le_refl _

theorem le_pick (least greatest : Duration) (random : Nat) : least ≤ pick least greatest random :=
  Nat.le_add_right _ _

/-- Every point of an interval is picked by some number. -/
theorem exists_pick {least greatest delay : Duration} (above : least ≤ delay)
    (below : delay ≤ greatest) : ∃ random, pick least greatest random = delay := by
  refine ⟨delay.nanoseconds - least.nanoseconds, ?_⟩
  have small : delay.nanoseconds - least.nanoseconds <
      greatest.nanoseconds - least.nanoseconds + 1 :=
    Nat.lt_succ_of_le (Nat.sub_le_sub_right below _)
  rw [pick, Nat.mod_eq_of_lt small]
  exact congrArg Duration.mk (Nat.add_sub_of_le above)

/-- Chance has something to take away from the base. -/
def Uncertain (policy : ExponentialPolicy) (base : Duration) : Prop :=
  (Binary64.zero false).lt policy.jitter = true ∧ base ≠ .zero

theorem lowest_of_certain (certain : ¬ policy.Uncertain base) : policy.lowest base = base := by
  by_cases jitters : (Binary64.zero false).lt policy.jitter = true
  · have none : base = .zero := Classical.not_not.mp fun some => certain ⟨jitters, some⟩
    rw [none]
    exact Duration.le_antisymm (policy.lowest_le .zero) (Nat.zero_le _)
  · exact if_neg jitters

/-- Neither of the two zeros leaves anything to chance. -/
theorem lowest_of_rank_eq_zero (steady : policy.jitter.rank = some 0) (base : Duration) :
    policy.lowest base = base := by
  apply lowest_of_certain
  rintro ⟨jitters, -⟩
  rw [Binary64.lt, steady] at jitters
  cases jitters

theorem nextDelay_of_certain (based : policy.baseDelay attempt elapsed = .wait base)
    (certain : ¬ policy.Uncertain base) :
    policy.nextDelay random attempt elapsed = .wait base := by
  simp only [nextDelay, based, Bool.and_eq_true, decide_eq_true_eq]
  exact if_neg certain

theorem nextDelay_of_uncertain (based : policy.baseDelay attempt elapsed = .wait base)
    (uncertain : policy.Uncertain base) :
    policy.nextDelay random attempt elapsed =
      .wait (pick (policy.lowest base) base random) := by
  simp only [nextDelay, based, Bool.and_eq_true, decide_eq_true_eq]
  rw [lowest, if_pos uncertain.1]
  exact if_pos uncertain

/-- Chance draws any delay from the lowest one to the base, and no other. -/
theorem exists_nextDelay_eq_iff (based : policy.baseDelay attempt elapsed = .wait base)
    {delay : Duration} :
    (∃ random, policy.nextDelay random attempt elapsed = .wait delay) ↔
      policy.lowest base ≤ delay ∧ delay ≤ base := by
  by_cases uncertain : policy.Uncertain base
  · simp only [nextDelay_of_uncertain based uncertain, NextDelay.wait.injEq]
    constructor
    · rintro ⟨random, rfl⟩
      exact ⟨le_pick _ _ random, pick_le (policy.lowest_le base) random⟩
    · rintro ⟨above, below⟩
      exact exists_pick above below
  · simp only [nextDelay_of_certain based uncertain, lowest_of_certain uncertain, exists_const,
      NextDelay.wait.injEq]
    constructor
    · rintro rfl
      exact ⟨Nat.le_refl _, Nat.le_refl _⟩
    · rintro ⟨above, below⟩
      exact Duration.le_antisymm above below

theorem exists_baseDelay_of_unspent
    (unspent : ¬ (policy.AttemptsSpent attempt ∨ policy.TimeSpent elapsed)) :
    ∃ base, policy.baseDelay attempt elapsed = .wait base := by
  cases based : policy.baseDelay attempt elapsed with
  | stop => exact absurd (baseDelay_eq_stop_iff.mp based) unspent
  | wait base => exact ⟨base, rfl⟩

theorem growth_le (attempt : Nat) : growth attempt ≤ 2147483646 :=
  Nat.sub_le_sub_right (Nat.min_le_left _ _) 1

section Checked

def growth? (attempt : Nat) : Option Nat := (min greatestGrowth (max attempt 1)).psub 1

def grown (policy : ExponentialPolicy) (exponent : Nat) : Duration :=
  let product := policy.initial.seconds.mul (policy.coefficient.power exponent)
  let delay := (Duration.ofSeconds? product).getD .longest
  match policy.maximum with
  | none => delay
  | some maximum => min delay maximum

/-- The answer before chance comes in, computed with differences that can fail. -/
def baseDelay? (policy : ExponentialPolicy) (attempt : Nat) (elapsed : Duration) :
    Option NextDelay :=
  if 0 < policy.attempts ∧ policy.attempts < attempt then some .stop
  else
    match policy.expiration with
    | none => (growth? attempt).map fun exponent => .wait (policy.grown exponent)
    | some expiration =>
        if expiration ≤ elapsed then some .stop
        else
          (expiration.sub? elapsed).bind fun remaining =>
            (growth? attempt).map fun exponent =>
              if remaining < policy.initial then .stop
              else .wait (min (policy.grown exponent) remaining)

def pick? (least greatest : Duration) (random : Nat) : Option Duration :=
  (greatest.sub? least).map fun room => least + ⟨random % (room.nanoseconds + 1)⟩

/-- The answer, computed with differences and a drawing that can fail. -/
def nextDelay? (policy : ExponentialPolicy) (random attempt : Nat) (elapsed : Duration) :
    Option NextDelay :=
  (policy.baseDelay? attempt elapsed).bind fun answer =>
    match answer with
    | .stop => some .stop
    | .wait delay =>
        if (Binary64.zero false).lt policy.jitter && decide (delay ≠ .zero) then
          (pick? (policy.leastOf delay) delay random).map .wait
        else some (.wait delay)

theorem growth?_eq (attempt : Nat) : growth? attempt = some (growth attempt) := by
  have positive : 1 ≤ min greatestGrowth (max attempt 1) := by
    rw [greatestGrowth]
    omega
  exact Nat.psub_eq_sub positive

theorem grown_growth (policy : ExponentialPolicy) (attempt : Nat) :
    policy.grown (growth attempt) = policy.capped attempt := rfl

theorem baseDelay?_eq (policy : ExponentialPolicy) (attempt : Nat) (elapsed : Duration) :
    policy.baseDelay? attempt elapsed = some (policy.baseDelay attempt elapsed) := by
  unfold baseDelay? baseDelay
  by_cases spent : 0 < policy.attempts ∧ policy.attempts < attempt
  · rw [if_pos spent, if_pos spent]
  · rw [if_neg spent, if_neg spent]
    cases policy.expiration with
    | none => rw [growth?_eq, Option.map_some, grown_growth]
    | some expiration =>
        by_cases late : expiration ≤ elapsed
        · simp only [if_pos late]
        · have early : elapsed ≤ expiration := Nat.le_of_lt (Nat.lt_of_not_le late)
          simp only [if_neg late, Duration.sub?_of_le early, growth?_eq, grown_growth,
            Option.bind_some, Option.map_some]

theorem pick?_eq {least greatest : Duration} (ordered : least ≤ greatest) (random : Nat) :
    pick? least greatest random = some (pick least greatest random) := by
  rw [pick?, Duration.sub?_of_le ordered]
  rfl

/-- No difference on the way to an answer falls below zero, and there always is a delay to draw. -/
theorem nextDelay?_eq (policy : ExponentialPolicy) (random attempt : Nat) (elapsed : Duration) :
    policy.nextDelay? random attempt elapsed = some (policy.nextDelay random attempt elapsed) := by
  rw [nextDelay?, baseDelay?_eq, Option.bind_some, nextDelay]
  cases policy.baseDelay attempt elapsed with
  | stop => rfl
  | wait delay =>
      dsimp only
      split
      next => rw [pick?_eq (policy.leastOf_le delay), Option.map_some]
      next => rfl

end Checked

/-- A policy stops when its attempts or its time are spent, and only then. Otherwise chance draws a
delay below the least of the limits, which does not grow with the time that has passed; and nothing
fails on the way. -/
theorem answers_within_limits (policy : ExponentialPolicy) (attempt : Nat) (elapsed : Duration) :
    (∀ random, policy.nextDelay random attempt elapsed = .stop ↔
      policy.AttemptsSpent attempt ∨ policy.TimeSpent elapsed) ∧
    (¬ (policy.AttemptsSpent attempt ∨ policy.TimeSpent elapsed) →
      ∃ base, policy.Base attempt elapsed base ∧ base ≤ .longest ∧
        policy.lowest base ≤ base ∧
        (policy.jitter.rank = some 0 → policy.lowest base = base) ∧
        (∀ random, ∃ delay, policy.nextDelay random attempt elapsed = .wait delay) ∧
        ∀ delay, (∃ random, policy.nextDelay random attempt elapsed = .wait delay) ↔
          policy.lowest base ≤ delay ∧ delay ≤ base) ∧
    growth attempt ≤ 2147483646 ∧
    (∀ random, policy.nextDelay? random attempt elapsed =
      some (policy.nextDelay random attempt elapsed)) ∧
    ∀ later base less, elapsed ≤ later → policy.Base attempt elapsed base →
      policy.Base attempt later less → less ≤ base := by
  refine ⟨fun _ => nextDelay_eq_stop_iff, ?_, growth_le attempt,
    fun random => policy.nextDelay?_eq random attempt elapsed, ?_⟩
  · intro unspent
    obtain ⟨base, based⟩ := exists_baseDelay_of_unspent unspent
    have bounds := base_of_baseDelay based
    refine ⟨base, bounds, bounds.le_longest, policy.lowest_le base,
      fun steady => lowest_of_rank_eq_zero steady base, ?_,
      fun _ => exists_nextDelay_eq_iff based⟩
    intro random
    cases answered : policy.nextDelay random attempt elapsed with
    | stop => exact absurd (nextDelay_eq_stop_iff.mp answered) unspent
    | wait delay => exact ⟨delay, rfl⟩
  · intro later base less passes bounds boundsLater
    exact bounds.le_of_later passes boundsLater

/-- Two and a half seconds before the default policy expires there is no time for the fourth
delay of eight seconds, but chance can still take half a second away. -/
theorem answers_within_limits_near_expiration :
    let elapsed : Duration := ⟨57500000000⟩
    ¬ (ofDefaults.AttemptsSpent 4 ∨ ofDefaults.TimeSpent elapsed) ∧
      ofDefaults.Base 4 elapsed ⟨2500000000⟩ ∧
      ofDefaults.lowest ⟨2500000000⟩ = .ofSeconds 2 ∧
      ∃ random, ofDefaults.nextDelay random 4 elapsed = .wait (.ofSeconds 2) := by
  intro elapsed
  have based : ofDefaults.baseDelay 4 elapsed = .wait ⟨2500000000⟩ := by decide +kernel
  have lowest : ofDefaults.lowest ⟨2500000000⟩ = .ofSeconds 2 := by decide +kernel
  have unspent : ¬ (ofDefaults.AttemptsSpent 4 ∨ ofDefaults.TimeSpent elapsed) := by
    intro spent
    cases based.symm.trans (baseDelay_eq_stop_iff.mpr spent)
  have bounds := base_of_baseDelay based
  obtain ⟨base, found, -, -, -, -, draws⟩ :=
    (answers_within_limits ofDefaults 4 elapsed).2.1 unspent
  obtain rfl : base = ⟨2500000000⟩ :=
    Duration.le_antisymm (found.le _ bounds.member) (bounds.le _ found.member)
  refine ⟨unspent, bounds, lowest, (draws _).mpr ⟨?_, by decide⟩⟩
  rw [lowest]
  exact Nat.le_refl _

end ExponentialPolicy

end DecisionWorker
