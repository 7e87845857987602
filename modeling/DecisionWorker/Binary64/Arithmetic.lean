import DecisionWorker.Binary64.Basic

set_option autoImplicit false

/-!
Arithmetic on double-precision numbers: the exact result, rounded once to the nearest
number.

Every operation on finite numbers goes through `ofQuotient`, which rounds a quotient of
whole numbers; of two equally near numbers it takes the one with an even significand.
-/

namespace DecisionWorker.Binary64

/-- The whole number nearest to a quotient, of two equally near ones the even one. -/
def halfEven (numerator denominator : Nat) : Nat :=
  let quotient := numerator / denominator
  let remainder := numerator % denominator
  if 2 * remainder < denominator then quotient
  else if denominator < 2 * remainder then quotient + 1
  else quotient + quotient % 2

def belowPower (numerator denominator : Nat) (exponent : Int) : Bool :=
  decide (numerator <<< (-exponent).toNat < denominator <<< exponent.toNat)

/-- The exponent of the last place of a quotient: its significand has 53 bits, unless it is
too small. -/
def lastPlace (numerator denominator : Nat) : Int :=
  let guess : Int := (numerator.log2 : Int) - (denominator.log2 : Int) - 52
  let fitted := if belowPower numerator denominator (guess + 52) then guess - 1 else guess
  max fitted (-1074)

/-- The number nearest to `numerator / denominator`, with the given sign. -/
def ofQuotient (negative : Bool) (numerator denominator : Nat) : Binary64 :=
  if numerator = 0 then zero negative
  else
    let place := lastPlace numerator denominator
    let significand :=
      halfEven (numerator <<< (-place).toNat) (denominator <<< place.toNat)
    let magnitude := (place + 1074).toNat * leadingBit + significand
    if infiniteMagnitude ≤ magnitude then infinity negative
    else ofMagnitude negative magnitude

def ofScaled (negative : Bool) (significand : Nat) (exponent : Int) : Binary64 :=
  ofQuotient negative (significand <<< exponent.toNat) (1 <<< (-exponent).toNat)

def ofNat (count : Nat) : Binary64 := ofQuotient false count 1

/-- A finite number in units of two to the power `unit`, which is at most its exponent. -/
def units (negative : Bool) (significand : Nat) (exponent unit : Int) : Int :=
  let size : Int := (significand <<< (exponent - unit).toNat : Nat)
  if negative then -size else size

def negate (number : Binary64) : Binary64 :=
  ofMagnitude (!number.isNegative) number.magnitude

def add (left right : Binary64) : Binary64 :=
  match left.value, right.value with
  | .nan, _ => nan
  | _, .nan => nan
  | .infinite first, .infinite second => if first = second then left else nan
  | .infinite _, .finite _ _ _ => left
  | .finite _ _ _, .infinite _ => right
  | .finite first significand exponent, .finite second significand' exponent' =>
      let unit := min exponent exponent'
      let sum := units first significand exponent unit + units second significand' exponent' unit
      if sum = 0 then zero (first && second) else ofScaled (decide (sum < 0)) sum.natAbs unit

def sub (left right : Binary64) : Binary64 := left.add right.negate

def mul (left right : Binary64) : Binary64 :=
  match left.value, right.value with
  | .nan, _ => nan
  | _, .nan => nan
  | .infinite first, .infinite second => infinity (first != second)
  | .infinite first, .finite second significand _ =>
      if significand = 0 then nan else infinity (first != second)
  | .finite first significand _, .infinite second =>
      if significand = 0 then nan else infinity (first != second)
  | .finite first significand exponent, .finite second significand' exponent' =>
      ofScaled (first != second) (significand * significand') (exponent + exponent')

def div (left right : Binary64) : Binary64 :=
  match left.value, right.value with
  | .nan, _ => nan
  | _, .nan => nan
  | .infinite _, .infinite _ => nan
  | .infinite first, .finite second _ _ => infinity (first != second)
  | .finite first _ _, .infinite second => zero (first != second)
  | .finite first significand exponent, .finite second significand' exponent' =>
      if significand' = 0 then
        if significand = 0 then nan else infinity (first != second)
      else
        ofQuotient (first != second)
          (significand <<< (exponent - exponent').toNat)
          (significand' <<< (exponent' - exponent).toNat)

/-- Multiplies `product` by the base for every bit of the exponent, lowest first, squaring
as it goes. -/
def powerFrom : (bits : Nat) → (base product : Binary64) → (exponent : Nat) → Binary64
  | 0, _, product, _ => product
  | bits + 1, base, product, exponent =>
      let product := if exponent % 2 = 1 then product.mul base else product
      if exponent / 2 = 0 then product
      else powerFrom bits (base.mul base) product (exponent / 2)

/-- A power by repeated squaring, rounded at every multiplication. -/
def power (base : Binary64) (exponent : Nat) : Binary64 :=
  powerFrom (exponent.log2 + 1) base one exponent

end DecisionWorker.Binary64
