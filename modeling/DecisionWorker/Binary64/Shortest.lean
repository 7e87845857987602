import DecisionWorker.Binary64.Basic

set_option autoImplicit false

/-!
The fewest decimal digits that read back as a given finite number, and of those the
nearest.

A number is the nearest one to every point of an interval around it. The search tries
the grid of one digit, then of two, and so on; on each grid only the two neighbours of
the number can lie inside. Everything is compared as whole numbers over one denominator.
-/

namespace DecisionWorker.Binary64

/-- The interval of a number over one denominator: points strictly between `lower` and
`upper` read back as the number, the ends do if `closed`. -/
structure Neighbourhood where
  lower : Nat
  middle : Nat
  upper : Nat
  denominator : Nat
  closed : Bool

/-- The points nearest to a significand and exponent. Below a power of two the numbers lie
twice as close together. -/
def neighbourhood (significand : Nat) (exponent : Int) : Neighbourhood :=
  let scale := 1 <<< (exponent - 2).toNat
  let below := if significand = leadingBit ∧ exponent ≠ -1074 then 1 else 2
  { lower := (4 * significand - below) * scale
    middle := 4 * significand * scale
    upper := (4 * significand + 2) * scale
    denominator := 1 <<< (2 - exponent).toNat
    closed := significand % 2 == 0 }

structure Digits where
  digits : Nat
  exponent : Int

def Neighbourhood.contains (region : Neighbourhood) (point : Nat) : Bool :=
  if region.closed then decide (region.lower ≤ point) && decide (point ≤ region.upper)
  else decide (region.lower < point) && decide (point < region.upper)

def Neighbourhood.inUnits (region : Neighbourhood) (exponent : Int) : Neighbourhood :=
  let factor := Nat.pow 10 (-exponent).toNat
  { lower := region.lower * factor
    middle := region.middle * factor
    upper := region.upper * factor
    denominator := region.denominator * Nat.pow 10 exponent.toNat
    closed := region.closed }

/-- The grid point that reads back as the number, the nearer one if there are two, the upper
one if they are equally near. -/
def Neighbourhood.gridPoint? (region : Neighbourhood) : Option Nat :=
  let below := region.middle / region.denominator
  let distanceBelow := region.middle - below * region.denominator
  let distanceAbove := (below + 1) * region.denominator - region.middle
  let hitBelow := region.contains (below * region.denominator)
  let hitAbove := region.contains ((below + 1) * region.denominator)
  if hitBelow && (!hitAbove || decide (distanceBelow < distanceAbove)) then some below
  else if hitAbove then some (below + 1)
  else none

def Neighbourhood.search (region : Neighbourhood) : (more : Nat) → (exponent : Int) → Digits
  | 0, exponent =>
      let scaled := region.inUnits exponent
      ⟨scaled.middle / scaled.denominator, exponent⟩
  | more + 1, exponent =>
      match (region.inUnits exponent).gridPoint? with
      | some digits => ⟨digits, exponent⟩
      | none => region.search more (exponent - 1)

/-- The power of ten of the leading digit of a positive quotient that is at least `10 ^
-400`. -/
def leadingExponent (numerator denominator : Nat) : Int :=
  ((Nat.toDigits 10 (numerator * Nat.pow 10 400 / denominator)).length : Int) - 401

def shortest (significand : Nat) (exponent : Int) : Digits :=
  let region := neighbourhood significand exponent
  region.search 17 (leadingExponent region.middle region.denominator)

end DecisionWorker.Binary64
