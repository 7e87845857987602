import DecisionWorker.Binary64.Basic

set_option autoImplicit false

/-!
The order of double-precision numbers.

A comparison with NaN is false. On all other numbers `le` is a total preorder, in which the two
zeros share a place, and `lt` is its strict part. What is said here of clamping follows from
these laws alone.
-/

namespace DecisionWorker.Binary64

variable {number left middle right lower upper : Binary64}

theorem rank_eq_none_iff : number.rank = none ↔ number.isNaN = true := by
  unfold rank
  cases number.isNaN <;> cases number.isNegative <;> simp

theorem exists_rank (comparable : number.isNaN = false) : ∃ place, number.rank = some place := by
  apply Option.ne_none_iff_exists'.mp
  rw [Ne, rank_eq_none_iff, comparable]
  exact Bool.false_ne_true

theorem le_iff_rank :
    left.le right = true ↔
      ∃ first second, left.rank = some first ∧ right.rank = some second ∧ first ≤ second := by
  unfold le
  cases left.rank <;> cases right.rank <;> simp

theorem isNaN_eq_false_of_le (ordered : left.le right = true) :
    left.isNaN = false ∧ right.isNaN = false := by
  obtain ⟨first, second, placed, placed', -⟩ := le_iff_rank.mp ordered
  constructor
  · rw [← Bool.not_eq_true, ← rank_eq_none_iff, placed]
    exact Option.some_ne_none first
  · rw [← Bool.not_eq_true, ← rank_eq_none_iff, placed']
    exact Option.some_ne_none second

theorem le_refl (comparable : number.isNaN = false) : number.le number = true := by
  obtain ⟨place, placed⟩ := exists_rank comparable
  exact le_iff_rank.mpr ⟨place, place, placed, placed, Int.le_refl place⟩

theorem le_trans (below : left.le middle = true) (above : middle.le right = true) :
    left.le right = true := by
  obtain ⟨first, second, placed, placedMiddle, ordered⟩ := le_iff_rank.mp below
  obtain ⟨second', third, samePlace, placed', ordered'⟩ := le_iff_rank.mp above
  rw [placedMiddle] at samePlace
  cases samePlace
  exact le_iff_rank.mpr ⟨first, third, placed, placed', Int.le_trans ordered ordered'⟩

/-- A number is not below those that are at most equal to it, and not below NaN. -/
theorem lt_eq_false_iff (comparable : left.isNaN = false) :
    left.lt right = false ↔ right.isNaN = true ∨ right.le left = true := by
  obtain ⟨first, placed⟩ := exists_rank comparable
  rw [← rank_eq_none_iff]
  unfold lt le
  cases right.rank <;> simp [placed]

theorem lt_eq_false_of_le (ordered : left.le right = true) : right.lt left = false :=
  (lt_eq_false_iff (isNaN_eq_false_of_le ordered).2).mpr (.inr ordered)

theorem lt_of_lt_of_le (comparable : left.isNaN = false) (below : left.lt middle = true)
    (above : middle.le right = true) : left.lt right = true := by
  rw [← Bool.not_eq_false, lt_eq_false_iff comparable]
  rintro (unknown | ordered)
  · exact Bool.eq_false_iff.mp (isNaN_eq_false_of_le above).2 unknown
  · have back : middle.le left = true := le_trans above ordered
    rw [lt_eq_false_of_le back] at below
    cases below

theorem clamp_eq_self (above : lower.le number = true) (below : number.le upper = true) :
    number.clamp lower upper = number := by
  simp only [clamp, lt_eq_false_of_le above, lt_eq_false_of_le below, Bool.false_eq_true, if_false]

theorem le_clamp (comparable : number.isNaN = false) (ordered : lower.le upper = true) :
    lower.le (number.clamp lower upper) = true := by
  unfold clamp
  split
  next => exact le_refl (isNaN_eq_false_of_le ordered).1
  next notBelow =>
    split
    next => exact ordered
    next =>
      rw [Bool.not_eq_true, lt_eq_false_iff comparable] at notBelow
      exact notBelow.resolve_left (Bool.eq_false_iff.mp (isNaN_eq_false_of_le ordered).1)

theorem clamp_le (comparable : number.isNaN = false) (ordered : lower.le upper = true) :
    (number.clamp lower upper).le upper = true := by
  unfold clamp
  split
  next => exact ordered
  next =>
    split
    next => exact le_refl (isNaN_eq_false_of_le ordered).2
    next notAbove =>
      rw [Bool.not_eq_true, lt_eq_false_iff (isNaN_eq_false_of_le ordered).2] at notAbove
      exact notAbove.resolve_left (Bool.eq_false_iff.mp comparable)

end DecisionWorker.Binary64
