import DecisionWorker.Text.Decimal

set_option autoImplicit false

/-!
Lengths of time in whole nanoseconds.

Moments are lengths too: a moment is named by the time that has passed since the clock
started. Timers only know whole milliseconds, so everything that they measure is rounded up
to the next one. A pause is also cut to thirty years (`timer`). The limit that is set to the
work of somebody else is not a pause and is only rounded (`roundUp`).
-/

namespace DecisionWorker

structure Duration where
  nanoseconds : Nat
  deriving DecidableEq

/-- A moment, measured from the start of the clock. -/
abbrev Instant := Duration

namespace Duration

def zero : Duration := ⟨0⟩

/-- The longest wait anyone can ask for: 64 bits of seconds, and all but one nanosecond
more. -/
def longest : Duration := ⟨18446744073709551615999999999⟩

def ofMilliseconds (count : Nat) : Duration := ⟨count * 1000000⟩

def ofSeconds (count : Nat) : Duration := ⟨count * 1000000000⟩

/-- Whole milliseconds, the rest cut off. -/
def milliseconds (duration : Duration) : Nat := duration.nanoseconds / 1000000

instance : LE Duration := ⟨fun left right => left.nanoseconds ≤ right.nanoseconds⟩

instance : LT Duration := ⟨fun left right => left.nanoseconds < right.nanoseconds⟩

instance (left right : Duration) : Decidable (left ≤ right) :=
  inferInstanceAs (Decidable (left.nanoseconds ≤ right.nanoseconds))

instance (left right : Duration) : Decidable (left < right) :=
  inferInstanceAs (Decidable (left.nanoseconds < right.nanoseconds))

instance : Add Duration := ⟨fun left right => ⟨left.nanoseconds + right.nanoseconds⟩⟩

/-- The time from the second moment to the first; none if the second is later. -/
instance : Sub Duration := ⟨fun left right => ⟨left.nanoseconds - right.nanoseconds⟩⟩

instance : Min Duration := ⟨fun left right => ⟨min left.nanoseconds right.nanoseconds⟩⟩

instance : Max Duration := ⟨fun left right => ⟨max left.nanoseconds right.nanoseconds⟩⟩

theorem le_iff {left right : Duration} :
    left ≤ right ↔ left.nanoseconds ≤ right.nanoseconds := Iff.rfl

theorem lt_iff {left right : Duration} :
    left < right ↔ left.nanoseconds < right.nanoseconds := Iff.rfl

theorem le_antisymm {left right : Duration} (below : left ≤ right) (above : right ≤ left) :
    left = right := by
  obtain ⟨left⟩ := left
  obtain ⟨right⟩ := right
  exact congrArg Duration.mk (Nat.le_antisymm below above)

theorem min_eq_left {left right : Duration} (ordered : left ≤ right) : min left right = left :=
  congrArg mk (Nat.min_eq_left ordered)

theorem min_eq_right {left right : Duration} (ordered : right ≤ left) : min left right = right :=
  congrArg mk (Nat.min_eq_right ordered)

theorem max_eq_left {left right : Duration} (ordered : right ≤ left) : max left right = left :=
  congrArg mk (Nat.max_eq_left ordered)

@[simp]
theorem nanoseconds_add (left right : Duration) :
    (left + right).nanoseconds = left.nanoseconds + right.nanoseconds := rfl

@[simp]
theorem nanoseconds_sub (left right : Duration) :
    (left - right).nanoseconds = left.nanoseconds - right.nanoseconds := rfl

@[simp]
theorem nanoseconds_min (left right : Duration) :
    (min left right).nanoseconds = min left.nanoseconds right.nanoseconds := rfl

@[simp]
theorem nanoseconds_max (left right : Duration) :
    (max left right).nanoseconds = max left.nanoseconds right.nanoseconds := rfl

/-- Rounded up to whole milliseconds, the steps in which time passes for timers. -/
def roundUp (duration : Duration) : Duration :=
  ⟨(duration.nanoseconds + 999999) / 1000000 * 1000000⟩

theorem le_roundUp (duration : Duration) : duration ≤ duration.roundUp := by
  simp only [le_iff, roundUp]
  omega

theorem roundUp_lt (duration : Duration) :
    duration.roundUp.nanoseconds < duration.nanoseconds + 1000000 := by
  simp only [roundUp]
  omega

def Whole (duration : Duration) : Prop := 1000000 ∣ duration.nanoseconds

theorem whole_zero : zero.Whole := Nat.dvd_zero _

theorem whole_ofMilliseconds (count : Nat) : (ofMilliseconds count).Whole := Nat.dvd_mul_left _ _

theorem whole_roundUp (duration : Duration) : duration.roundUp.Whole := Nat.dvd_mul_left _ _

theorem Whole.add {left right : Duration} (wholeLeft : left.Whole) (wholeRight : right.Whole) :
    (left + right).Whole := Nat.dvd_add wholeLeft wholeRight

theorem roundUp_of_whole {duration : Duration} (whole : duration.Whole) :
    duration.roundUp = duration := by
  obtain ⟨nanoseconds⟩ := duration
  obtain ⟨milliseconds, rfl⟩ := whole
  simp only [roundUp, mk.injEq]
  omega

/-- No pause lasts longer: thirty years of 365 days. -/
def longestTimer : Duration := .ofSeconds 946080000

/-- How long a pause of this length lasts. -/
def timer (duration : Duration) : Duration := min duration.roundUp longestTimer

theorem timer_le_roundUp (duration : Duration) : duration.timer ≤ duration.roundUp := by
  simp only [le_iff, timer, nanoseconds_min]
  omega

theorem timer_le_longestTimer (duration : Duration) : duration.timer ≤ longestTimer := by
  simp only [le_iff, timer, nanoseconds_min]
  omega

theorem whole_timer (duration : Duration) : duration.timer.Whole := by
  simp only [Whole, timer, nanoseconds_min, roundUp, longestTimer, ofSeconds]
  omega

theorem timer_eq_zero_iff {duration : Duration} : duration.timer = zero ↔ duration = zero := by
  constructor
  · intro instantly
    have same := congrArg nanoseconds instantly
    simp only [timer, nanoseconds_min, roundUp, longestTimer, ofSeconds, zero] at same
    have empty : duration.nanoseconds = 0 := by omega
    exact congrArg mk empty
  · rintro rfl
    rfl

/-- Only the longest pauses are cut. -/
theorem timer_eq_roundUp {duration : Duration} (short : duration ≤ longestTimer) :
    duration.timer = duration.roundUp := by
  have fits : duration.roundUp.nanoseconds ≤ longestTimer.nanoseconds := by
    simp only [le_iff, longestTimer, ofSeconds, roundUp] at short ⊢
    omega
  show Duration.mk (min duration.roundUp.nanoseconds longestTimer.nanoseconds) = _
  rw [Nat.min_eq_left fits]

/-- The exact length in the largest unit that leaves a whole part. -/
def text (duration : Duration) : String :=
  let count := duration.nanoseconds
  if 1000000000 ≤ count then Decimal.text count 9 ++ "s"
  else if 1000000 ≤ count then Decimal.text count 6 ++ "ms"
  else if 1000 ≤ count then Decimal.text count 3 ++ "µs"
  else Decimal.text count 0 ++ "ns"

end Duration

end DecisionWorker
