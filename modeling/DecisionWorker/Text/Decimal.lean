set_option autoImplicit false

/-!
Decimal fractions written in full: `1500` with three places is `1.5`, and with two
places `15`.
-/

namespace DecisionWorker.Decimal

def fraction (value places : Nat) : List Char :=
  let digits := Nat.toDigits 10 (value % Nat.pow 10 places)
  let padded := List.replicate (places - digits.length) '0' ++ digits
  (padded.reverse.dropWhile (· == '0')).reverse

/-- `value` divided by ten to the power `places`, exactly, with no point behind a whole
number. -/
def text (value places : Nat) : String :=
  let whole := toString (value / Nat.pow 10 places)
  match fraction value places with
  | [] => whole
  | digits => whole ++ "." ++ String.ofList digits

end DecisionWorker.Decimal
