import DecisionWorker.Backoff.Policy
import DecisionWorker.Binary64.Text

set_option autoImplicit false

/-!
Settings of exponential policies, and the two ways to make a policy of them.

`build` refuses settings that make no sense and names the first one at fault; `clamp`
moves each setting to the nearest one that makes sense.
-/

namespace DecisionWorker

namespace Exponential

def defaultInitial : Duration := .ofSeconds 1

def defaultCoefficient : Binary64 := .two

def defaultExpiration : Duration := .ofSeconds 60

/-- One fifth. -/
def defaultJitter : Binary64 := ⟨0x3FC999999999999A⟩

/-- The least coefficient that clamping leaves, eleven tenths. -/
def leastCoefficient : Binary64 := ⟨0x3FF199999999999A⟩

/-- The greatest coefficient that clamping leaves, thirty-two. -/
def greatestCoefficient : Binary64 := ⟨0x4040000000000000⟩

end Exponential

open Exponential

/-- The parameters of an exponential policy, as they are asked for. No limit on the attempts
is written zero, and so is no limit on the time. -/
structure ExponentialSettings where
  initial : Duration := defaultInitial
  coefficient : Binary64 := defaultCoefficient
  maximum : Option Duration := none
  attempts : Nat := 0
  expiration : Duration := defaultExpiration
  jitter : Binary64 := defaultJitter
  deriving DecidableEq

/-- A policy whose delays grow by a constant factor up to a maximum, with limits on the
number of attempts and on the time, and with a fraction of each delay left to chance. -/
structure ExponentialPolicy where
  initial : Duration
  coefficient : Binary64
  maximum : Option Duration
  attempts : Nat
  expiration : Option Duration
  jitter : Binary64
  deriving DecidableEq

inductive SettingsError where
  | slowCoefficient (coefficient : Binary64)
  | noInitial (initial : Duration)
  | emptyRange (maximum initial : Duration)
  | badJitter (jitter : Binary64)
  deriving DecidableEq

def SettingsError.message : SettingsError → String
  | .slowCoefficient coefficient =>
      "the backoff coefficient (" ++ Binary64.Style.plain.text coefficient ++
        ") should be > 1.0"
  | .noInitial initial =>
      "the initial interval (" ++ initial.text ++ ") should be greater than zero"
  | .emptyRange maximum initial =>
      "the maximum interval (" ++ maximum.text ++
        ") should be greater than or equal to the initial interval (" ++ initial.text ++ ")"
  | .badJitter jitter =>
      "the jitter fraction (" ++ Binary64.Style.plain.text jitter ++
        ") should be in the [0.0, 1.0] range"

namespace ExponentialSettings

def limit (settings : ExponentialSettings) : Option Duration :=
  if settings.expiration = .zero then none else some settings.expiration

/-- Whether the maximum, if there is one, leaves room for the initial interval. -/
def hasRange (settings : ExponentialSettings) : Bool :=
  match settings.maximum with
  | none => true
  | some maximum => decide (settings.initial ≤ maximum)

def hasJitter (settings : ExponentialSettings) : Bool :=
  (Binary64.zero false).le settings.jitter && settings.jitter.le .one

/-- The first fault, looked for in a fixed order. -/
def fault? (settings : ExponentialSettings) : Option SettingsError :=
  if settings.coefficient.isNaN || settings.coefficient.le .one then
    some (.slowCoefficient settings.coefficient)
  else if settings.initial = .zero then some (.noInitial settings.initial)
  else if settings.hasRange = false then
    some (.emptyRange (settings.maximum.getD .zero) settings.initial)
  else if settings.hasJitter = false then some (.badJitter settings.jitter)
  else none

def policy (settings : ExponentialSettings) : ExponentialPolicy where
  initial := settings.initial
  coefficient := settings.coefficient
  maximum := settings.maximum
  attempts := settings.attempts
  expiration := settings.limit
  jitter := settings.jitter

def build (settings : ExponentialSettings) : Except SettingsError ExponentialPolicy :=
  match settings.fault? with
  | some fault => .error fault
  | none => .ok settings.policy

/-- The nearest settings that make sense. For NaN no number is nearest, and the default is
taken. -/
def clamped (settings : ExponentialSettings) : ExponentialSettings :=
  let initial := max settings.initial (.ofMilliseconds 1)
  { settings with
    initial
    coefficient :=
      if settings.coefficient.isNaN then defaultCoefficient
      else settings.coefficient.clamp leastCoefficient greatestCoefficient
    maximum := settings.maximum.map (max · initial)
    jitter :=
      if settings.jitter.isNaN then defaultJitter
      else settings.jitter.clamp (.zero false) .one }

def clamp (settings : ExponentialSettings) : ExponentialPolicy := settings.clamped.policy

end ExponentialSettings

namespace ExponentialPolicy

def ofDefaults : ExponentialPolicy := ({} : ExponentialSettings).policy

/-- The settings that ask for just this policy. -/
def settings (policy : ExponentialPolicy) : ExponentialSettings where
  initial := policy.initial
  coefficient := policy.coefficient
  maximum := policy.maximum
  attempts := policy.attempts
  expiration := policy.expiration.getD .zero
  jitter := policy.jitter

end ExponentialPolicy

end DecisionWorker
