import DecisionWorker.Backoff.Exponential
import DecisionWorker.Proofs.Binary64.Order

set_option autoImplicit false

/-!
How building and clamping agree about settings.

Every parameter of an exponential policy has a range of its own, and one that is outside is a
fault (`Faulty`). Building names the first fault, and there is a policy if there is none. Clamping
leads to settings within narrower ranges (`Moderate`), where nothing is at fault and nothing is left
to clamp. So what clamping makes can be built and clamped again without a change, and settings
that were within these ranges from the start are just built.
-/

namespace DecisionWorker

/-- The place of a fault in the order in which faults are looked for. -/
def SettingsError.place : SettingsError → Nat
  | slowCoefficient _ => 0
  | noInitial _ => 1
  | emptyRange _ _ => 2
  | badJitter _ => 3

namespace ExponentialSettings

open Exponential

variable {settings : ExponentialSettings} {fault other : SettingsError}

/-- Something is wrong with the settings, whatever else may be. -/
inductive Faulty (settings : ExponentialSettings) : SettingsError → Prop
  | slowCoefficient : ¬ Binary64.one.lt settings.coefficient = true →
      Faulty settings (.slowCoefficient settings.coefficient)
  | noInitial : ¬ Duration.zero < settings.initial → Faulty settings (.noInitial settings.initial)
  | emptyRange {maximum : Duration} : settings.maximum = some maximum →
      ¬ settings.initial ≤ maximum → Faulty settings (.emptyRange maximum settings.initial)
  | badJitter :
      ¬ ((Binary64.zero false).le settings.jitter = true ∧
        settings.jitter.le .one = true) → Faulty settings (.badJitter settings.jitter)

structure FirstFault (settings : ExponentialSettings) (fault : SettingsError) : Prop where
  faulty : settings.Faulty fault
  first : ∀ other, settings.Faulty other → fault.place ≤ other.place

section Build

/-- The settings leave no choice between two faults of one place. -/
theorem Faulty.eq_of_place (faulty : settings.Faulty fault) (faulty' : settings.Faulty other)
    (same : fault.place = other.place) : fault = other := by
  cases faulty with
  | slowCoefficient =>
      cases faulty' with
      | slowCoefficient => rfl
      | noInitial | emptyRange | badJitter => cases same
  | noInitial =>
      cases faulty' with
      | noInitial => rfl
      | slowCoefficient | emptyRange | badJitter => cases same
  | emptyRange some =>
      cases faulty' with
      | emptyRange some' =>
          rw [some] at some'
          cases some'
          rfl
      | slowCoefficient | noInitial | badJitter => cases same
  | badJitter =>
      cases faulty' with
      | badJitter => rfl
      | slowCoefficient | noInitial | emptyRange => cases same

theorem FirstFault.unique (first : settings.FirstFault fault)
    (first' : settings.FirstFault other) : fault = other := by
  apply first.faulty.eq_of_place first'.faulty
  exact Nat.le_antisymm (first.first other first'.faulty) (first'.first fault first.faulty)

theorem isNaN_or_le_one_iff :
    (settings.coefficient.isNaN || settings.coefficient.le .one) = true ↔
      ¬ Binary64.one.lt settings.coefficient = true := by
  rw [Bool.or_eq_true, Bool.not_eq_true, Binary64.lt_eq_false_iff (by decide)]

theorem initial_eq_zero_iff : settings.initial = .zero ↔ ¬ Duration.zero < settings.initial := by
  constructor
  · intro none
    rw [none]
    exact Nat.lt_irrefl _
  · intro none
    exact Duration.le_antisymm (Nat.le_of_not_lt none) (Nat.zero_le _)

theorem hasRange_eq_false_iff :
    settings.hasRange = false ↔
      ∃ maximum, settings.maximum = some maximum ∧ ¬ settings.initial ≤ maximum := by
  unfold hasRange
  cases settings.maximum <;> simp

theorem hasJitter_eq_false_iff :
    settings.hasJitter = false ↔
      ¬ ((Binary64.zero false).le settings.jitter = true ∧ settings.jitter.le .one = true) := by
  rw [hasJitter, ← Bool.and_eq_true, Bool.not_eq_true]

/-- The search for a fault ends at the first one, if there is any. -/
theorem fault?_search :
    (∃ fault, settings.fault? = some fault ∧ settings.FirstFault fault) ∨
      (settings.fault? = none ∧ ∀ fault, ¬ settings.Faulty fault) := by
  unfold fault?
  simp only [isNaN_or_le_one_iff, initial_eq_zero_iff, hasRange_eq_false_iff,
    hasJitter_eq_false_iff]
  -- Every case keeps what those before it have ruled out, so that no fault has an earlier place.
  by_cases slow : ¬ Binary64.one.lt settings.coefficient = true
  · rw [if_pos slow]
    exact .inl ⟨_, rfl, .slowCoefficient slow, fun _ _ => Nat.zero_le _⟩
  rw [if_neg slow]
  by_cases none : ¬ Duration.zero < settings.initial
  · rw [if_pos none]
    refine .inl ⟨_, rfl, .noInitial none, ?_⟩
    intro other faulty
    cases faulty with
    | slowCoefficient slow' => exact absurd slow' slow
    | noInitial | emptyRange | badJitter => simp [SettingsError.place]
  rw [if_neg none]
  by_cases empty : ∃ maximum, settings.maximum = some maximum ∧ ¬ settings.initial ≤ maximum
  · rw [if_pos empty]
    obtain ⟨maximum, limited, below⟩ := empty
    rw [limited]
    refine .inl ⟨_, rfl, .emptyRange limited below, ?_⟩
    intro other faulty
    cases faulty with
    | slowCoefficient slow' => exact absurd slow' slow
    | noInitial none' => exact absurd none' none
    | emptyRange | badJitter => simp [SettingsError.place]
  rw [if_neg empty]
  by_cases outside : ¬ ((Binary64.zero false).le settings.jitter = true ∧
      settings.jitter.le .one = true)
  · rw [if_pos outside]
    refine .inl ⟨_, rfl, .badJitter outside, ?_⟩
    intro other faulty
    cases faulty with
    | slowCoefficient slow' => exact absurd slow' slow
    | noInitial none' => exact absurd none' none
    | emptyRange limited below => exact absurd ⟨_, limited, below⟩ empty
    | badJitter => simp [SettingsError.place]
  rw [if_neg outside]
  refine .inr ⟨rfl, ?_⟩
  intro fault faulty
  cases faulty with
  | slowCoefficient slow' => exact slow slow'
  | noInitial none' => exact none none'
  | emptyRange limited below => exact empty ⟨_, limited, below⟩
  | badJitter outside' => exact outside outside'

theorem fault?_eq_some_iff : settings.fault? = some fault ↔ settings.FirstFault fault := by
  rcases settings.fault?_search with ⟨found, same, first⟩ | ⟨none, sound⟩
  · rw [same, Option.some.injEq]
    constructor
    · rintro rfl
      exact first
    · exact first.unique
  · rw [none]
    constructor
    · intro impossible
      cases impossible
    · exact fun first => absurd first.faulty (sound fault)

theorem fault?_eq_none_iff : settings.fault? = none ↔ ∀ fault, ¬ settings.Faulty fault := by
  rcases settings.fault?_search with ⟨found, same, first⟩ | ⟨none, sound⟩
  · rw [same]
    constructor
    · intro impossible
      cases impossible
    · exact fun sound => absurd first.faulty (sound found)
  · exact ⟨fun _ => sound, fun _ => none⟩

theorem build_eq_error_iff : settings.build = .error fault ↔ settings.FirstFault fault := by
  rw [← fault?_eq_some_iff, build]
  cases settings.fault? <;> simp

theorem build_eq_ok_iff {policy : ExponentialPolicy} :
    settings.build = .ok policy ↔
      (∀ fault, ¬ settings.Faulty fault) ∧ settings.policy = policy := by
  rw [← fault?_eq_none_iff, build]
  cases settings.fault? <;> simp

/-- Where there is a fault, there is a first one. -/
theorem exists_build_eq_error_iff :
    (∃ fault, settings.build = .error fault) ↔ ∃ fault, settings.Faulty fault := by
  constructor
  · rintro ⟨fault, refused⟩
    exact ⟨fault, (build_eq_error_iff.mp refused).faulty⟩
  · rintro ⟨fault, faulty⟩
    cases built : settings.build with
    | error first => exact ⟨first, rfl⟩
    | ok policy => exact absurd faulty ((build_eq_ok_iff.mp built).1 fault)

end Build

section Clamp

/-- Every parameter is within the range to which clamping leads. -/
structure Moderate (settings : ExponentialSettings) : Prop where
  initial : .ofMilliseconds 1 ≤ settings.initial
  coefficient : leastCoefficient.le settings.coefficient = true ∧
    settings.coefficient.le greatestCoefficient = true
  range : ∀ maximum, settings.maximum = some maximum → settings.initial ≤ maximum
  jitter : (Binary64.zero false).le settings.jitter = true ∧ settings.jitter.le .one = true

theorem le_clamped_le {substitute lower upper : Binary64} (number : Binary64)
    (within : lower.le substitute = true ∧ substitute.le upper = true) :
    let clamped := if number.isNaN then substitute else number.clamp lower upper
    lower.le clamped = true ∧ clamped.le upper = true := by
  intro clamped
  have ordered : lower.le upper = true := Binary64.le_trans within.1 within.2
  unfold clamped
  split
  next => exact within
  next known =>
    have comparable : number.isNaN = false := Bool.eq_false_iff.mpr known
    exact ⟨Binary64.le_clamp comparable ordered, Binary64.clamp_le comparable ordered⟩

theorem moderate_clamped (settings : ExponentialSettings) : settings.clamped.Moderate where
  initial := Nat.le_max_right _ _
  coefficient := le_clamped_le settings.coefficient (by decide)
  range := by
    intro maximum limited
    obtain ⟨asked, -, rfl⟩ := Option.map_eq_some_iff.mp limited
    exact Nat.le_max_right _ _
  jitter := le_clamped_le settings.jitter (by decide)

/-- Nothing is left to clamp. -/
theorem Moderate.clamped_eq (moderate : settings.Moderate) : settings.clamped = settings := by
  obtain ⟨initial, coefficient, maximum, attempts, expiration, jitter⟩ := settings
  obtain ⟨long, ⟨quick, slow⟩, range, ⟨positive, part⟩⟩ := moderate
  have sameInitial : max initial (.ofMilliseconds 1) = initial := Duration.max_eq_left long
  have sameMaximum : maximum.map (max · initial) = maximum := by
    cases maximum with
    | none => rfl
    | some maximum => exact congrArg some (Duration.max_eq_left (range maximum rfl))
  simp only [clamped, sameInitial, sameMaximum, (Binary64.isNaN_eq_false_of_le quick).2,
    (Binary64.isNaN_eq_false_of_le part).1, Binary64.clamp_eq_self quick slow,
    Binary64.clamp_eq_self positive part, Bool.false_eq_true, if_false]

theorem Moderate.not_faulty (moderate : settings.Moderate) : ¬ settings.Faulty fault := by
  intro faulty
  cases faulty with
  | slowCoefficient slow =>
      have grows : Binary64.one.lt leastCoefficient = true := by decide
      exact slow (Binary64.lt_of_lt_of_le (by decide) grows moderate.coefficient.1)
  | noInitial none => exact none (Nat.lt_of_lt_of_le (by decide) moderate.initial)
  | emptyRange limited empty => exact empty (moderate.range _ limited)
  | badJitter outside => exact outside moderate.jitter

theorem Moderate.build_eq (moderate : settings.Moderate) : settings.build = .ok settings.policy :=
  build_eq_ok_iff.mpr ⟨fun _ => moderate.not_faulty, rfl⟩

theorem Moderate.clamp_eq (moderate : settings.Moderate) : settings.clamp = settings.policy :=
  congrArg policy moderate.clamped_eq

/-- What can be built needs no clamping, unless it starts too soon or its coefficient is too close
to one or too great. -/
theorem moderate_of_not_faulty (sound : ∀ fault, ¬ settings.Faulty fault)
    (initial : .ofMilliseconds 1 ≤ settings.initial)
    (coefficient : leastCoefficient.le settings.coefficient = true ∧
      settings.coefficient.le greatestCoefficient = true) : settings.Moderate where
  initial := initial
  coefficient := coefficient
  range _ limited := Classical.not_not.mp fun empty => sound _ (.emptyRange limited empty)
  jitter := Classical.not_not.mp fun outside => sound _ (.badJitter outside)

theorem settings_policy (settings : ExponentialSettings) : settings.policy.settings = settings := by
  obtain ⟨initial, coefficient, maximum, attempts, expiration, jitter⟩ := settings
  have same : (if expiration = .zero then none else some expiration).getD .zero = expiration := by
    split
    next unlimited => exact unlimited.symm
    next => rfl
  simp only [policy, limit, ExponentialPolicy.settings, same]

theorem settings_clamp (settings : ExponentialSettings) :
    settings.clamp.settings = settings.clamped :=
  settings_policy settings.clamped

end Clamp

/-- Building fails when a parameter is at fault, and names the first one that is. Clamping always
leads to a policy that can be built from its own parameters, and that clamping them does not
change; and it leads to what building leads to, if the initial interval and the coefficient
need no clamping. -/
theorem build_and_clamp_agree (settings : ExponentialSettings) :
    ((∃ fault, settings.build = .error fault) ↔ ∃ fault, settings.Faulty fault) ∧
    (∀ fault, settings.build = .error fault ↔ settings.FirstFault fault) ∧
    settings.clamp.settings.build = .ok settings.clamp ∧
    settings.clamp.settings.clamp = settings.clamp ∧
    ∀ policy, settings.build = .ok policy → .ofMilliseconds 1 ≤ settings.initial →
      leastCoefficient.le settings.coefficient = true →
      settings.coefficient.le greatestCoefficient = true → settings.clamp = policy := by
  have moderate := moderate_clamped settings
  refine ⟨exists_build_eq_error_iff, fun _ => build_eq_error_iff, ?_, ?_, ?_⟩
  · rw [settings_clamp, moderate.build_eq]
    rfl
  · rw [settings_clamp, moderate.clamp_eq]
    rfl
  · intro policy built initial quick slow
    obtain ⟨sound, rfl⟩ := build_eq_ok_iff.mp built
    exact (moderate_of_not_faulty sound initial ⟨quick, slow⟩).clamp_eq

/-- Every parameter at an end of its range, and a jitter of negative zero. -/
def atBounds : ExponentialSettings where
  initial := .ofMilliseconds 1
  coefficient := greatestCoefficient
  maximum := some (.ofMilliseconds 1)
  expiration := .zero
  jitter := .zero true

theorem build_and_clamp_agree_at_bounds :
    atBounds.build = .ok atBounds.policy ∧ .ofMilliseconds 1 ≤ atBounds.initial ∧
      leastCoefficient.le atBounds.coefficient = true ∧
      atBounds.coefficient.le greatestCoefficient = true ∧
      atBounds.clamp = atBounds.policy := by
  have built : atBounds.build = .ok atBounds.policy := rfl
  have initial : .ofMilliseconds 1 ≤ atBounds.initial := by decide
  have quick : leastCoefficient.le atBounds.coefficient = true := by decide
  have slow : atBounds.coefficient.le greatestCoefficient = true := by decide
  refine ⟨built, initial, quick, slow, ?_⟩
  exact (build_and_clamp_agree atBounds).2.2.2.2 _ built initial quick slow

end ExponentialSettings

end DecisionWorker
