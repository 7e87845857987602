set_option autoImplicit false

/-!
Double-precision numbers, given by their 64 bits.

`value` reads the bits as a sign, a whole significand and a power of two. `rank` places
every number that is not NaN on a line of integers, the two zeros on one point, and all
comparisons are comparisons of ranks; so a comparison with NaN is false.
-/

namespace DecisionWorker

structure Binary64 where
  bits : UInt64
  deriving DecidableEq

namespace Binary64

/-- What a bit pattern stands for; a finite number is its significand times two to its
exponent. -/
inductive Value where
  | nan
  | infinite (negative : Bool)
  | finite (negative : Bool) (significand : Nat) (exponent : Int)
  deriving DecidableEq

def signBit : Nat := 9223372036854775808

def leadingBit : Nat := 4503599627370496

def isNegative (number : Binary64) : Bool := decide (signBit ≤ number.bits.toNat)

/-- The bits below the sign. -/
def magnitude (number : Binary64) : Nat := number.bits.toNat % signBit

/-- The magnitude of the infinities; larger ones are NaN. -/
def infiniteMagnitude : Nat := 2047 * leadingBit

def isNaN (number : Binary64) : Bool := decide (infiniteMagnitude < number.magnitude)

def value (number : Binary64) : Value :=
  let biased : Nat := number.magnitude / leadingBit
  let fraction : Nat := number.magnitude % leadingBit
  if biased = 2047 then
    if fraction = 0 then .infinite number.isNegative else .nan
  else if biased = 0 then .finite number.isNegative fraction (-1074)
  else .finite number.isNegative (leadingBit + fraction) ((biased : Int) - 1075)

def ofMagnitude (negative : Bool) (magnitude : Nat) : Binary64 :=
  ⟨UInt64.ofNat (if negative then signBit + magnitude else magnitude)⟩

def zero (negative : Bool) : Binary64 := ofMagnitude negative 0

def infinity (negative : Bool) : Binary64 := ofMagnitude negative infiniteMagnitude

def nan : Binary64 := ⟨0x7FF8000000000000⟩

def one : Binary64 := ⟨0x3FF0000000000000⟩

def two : Binary64 := ⟨0x4000000000000000⟩

/-- The place of a number on the line; NaN has none. -/
def rank (number : Binary64) : Option Int :=
  if number.isNaN then none
  else if number.isNegative then some (-(number.magnitude : Int))
  else some number.magnitude

def lt (left right : Binary64) : Bool :=
  match left.rank, right.rank with
  | some first, some second => decide (first < second)
  | _, _ => false

def le (left right : Binary64) : Bool :=
  match left.rank, right.rank with
  | some first, some second => decide (first ≤ second)
  | _, _ => false

/-- The nearest number between two bounds. A number that equals a bound stays as it is. -/
def clamp (number lower upper : Binary64) : Binary64 :=
  if number.lt lower then lower else if upper.lt number then upper else number

end Binary64

end DecisionWorker
