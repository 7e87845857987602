set_option autoImplicit false

/-!
A sequence of numbers that look random: a counter, scrambled by multiplications and
shifts.
-/

namespace DecisionWorker.Noise

def scramble (word : UInt64) : UInt64 :=
  let first := (word ^^^ (word >>> 30)) * 0xBF58476D1CE4E5B9
  let second := (first ^^^ (first >>> 27)) * 0x94D049BB133111EB
  second ^^^ (second >>> 31)

def word (place : Nat) : UInt64 := scramble (UInt64.ofNat (place + 1) * 0x9E3779B97F4A7C15)

/-- The number at a place in the sequence, below two to the power of 128. -/
def number (place : Nat) : Nat :=
  (word (2 * place)).toNat <<< 64 + (word (2 * place + 1)).toNat

end DecisionWorker.Noise
