import DecisionWorker.Backoff.Exponential
import DecisionWorker.Text.Record

set_option autoImplicit false

/-!
Descriptions of exponential policies and of their settings.
-/

namespace DecisionWorker

def ExponentialPolicy.text (policy : ExponentialPolicy) : String :=
  Record.text "ExponentialRetryPolicy"
    [ ("initial_interval", policy.initial.text),
      ("backoff_coefficient", Binary64.Style.marked.text policy.coefficient),
      ("maximum_interval", Record.optional policy.maximum),
      ("maximum_attempts", toString policy.attempts),
      ("expiration_interval", Record.optional policy.expiration),
      ("jitter", Binary64.Style.marked.text policy.jitter) ]

def ExponentialSettings.text (settings : ExponentialSettings) : String :=
  Record.text "ExponentialRetryPolicyBuilder"
    [ ("initial_interval", settings.initial.text),
      ("backoff_coefficient", Binary64.Style.marked.text settings.coefficient),
      ("maximum_interval", Record.optional settings.maximum),
      ("maximum_attempts", toString settings.attempts),
      ("expiration_interval", settings.expiration.text),
      ("jitter", Binary64.Style.marked.text settings.jitter) ]

end DecisionWorker
