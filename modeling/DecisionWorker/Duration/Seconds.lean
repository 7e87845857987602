import DecisionWorker.Duration
import DecisionWorker.Binary64.Arithmetic

set_option autoImplicit false

/-!
Durations as double-precision seconds, and back.
-/

namespace DecisionWorker.Duration

/-- The length in seconds: whole seconds and the fraction are converted and added, each
rounded. -/
def seconds (duration : Duration) : Binary64 :=
  let whole := Binary64.ofNat (duration.nanoseconds / 1000000000)
  let rest := Binary64.ofNat (duration.nanoseconds % 1000000000)
  whole.add (rest.div (Binary64.ofNat 1000000000))

/-- The nearest whole number of nanoseconds, of two equally near ones the even one. There is
none for negative numbers, for NaN, and beyond the longest duration. -/
def ofSeconds? (number : Binary64) : Option Duration :=
  match number.value with
  | .nan => none
  | .infinite _ => none
  | .finite negative significand exponent =>
      if negative && significand != 0 then none
      else
        let nanoseconds := Binary64.halfEven
          ((significand <<< exponent.toNat) * 1000000000) (1 <<< (-exponent).toNat)
        if nanoseconds ≤ longest.nanoseconds then some ⟨nanoseconds⟩ else none

end DecisionWorker.Duration
