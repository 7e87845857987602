import DecisionWorker.Binary64.Shortest
import DecisionWorker.Text.Decimal

set_option autoImplicit false

/-!
Double-precision numbers as text, in two styles that share the shortest digits.

The plain style writes every number in full. The marked style shows that a number is not
a count: a whole number ends in `.0`, and very small and very large ones have an
exponent.
-/

namespace DecisionWorker.Binary64

/-- How digits are laid out. A number whose leading digit stands for ten to a power inside
`full` is written in full; any number is if there are no limits. -/
structure Style where
  full : Option (Int × Int)
  wholeEnding : String

def Style.plain : Style := ⟨none, ""⟩

/-- In full from `0.0001` to below `10000000000000000`. -/
def Style.marked : Style := ⟨some (-4, 15), ".0"⟩

def trimmed (digits : Nat) : List Char :=
  ((Nat.toDigits 10 digits).reverse.dropWhile (· == '0')).reverse

def Style.writesInFull (style : Style) (leading : Int) : Bool :=
  match style.full with
  | none => true
  | some (least, greatest) => decide (least ≤ leading) && decide (leading ≤ greatest)

def Style.inFull (style : Style) (number : Digits) : String :=
  let whole := number.digits * Nat.pow 10 number.exponent.toNat
  let places := (-number.exponent).toNat
  let written := Decimal.text whole places
  if whole % Nat.pow 10 places = 0 then written ++ style.wholeEnding else written

def withExponent (number : Digits) (leading : Int) : String :=
  let power := "e" ++ toString leading
  match trimmed number.digits with
  | [] => "0" ++ power
  | [digit] => digit.toString ++ power
  | digit :: rest => digit.toString ++ "." ++ String.ofList rest ++ power

def Style.magnitude (style : Style) (significand : Nat) (exponent : Int) : String :=
  if significand = 0 then "0" ++ style.wholeEnding
  else
    let number := shortest significand exponent
    let leading := ((Nat.toDigits 10 number.digits).length : Int) - 1 + number.exponent
    if style.writesInFull leading then style.inFull number
    else withExponent number leading

def Style.text (style : Style) (number : Binary64) : String :=
  match number.value with
  | .nan => "NaN"
  | .infinite negative => if negative then "-inf" else "inf"
  | .finite negative significand exponent =>
      let size := style.magnitude significand exponent
      if negative then "-" ++ size else size

end DecisionWorker.Binary64
