set_option autoImplicit false

/-!
Errors that the workflow service answers with.

A transient error may clear up on its own, a permanent one will not. An error names its
source, a message or another service error.
-/

namespace DecisionWorker

inductive ServiceError where
  | reported (transient : Bool) (message : String)
  | wrapping (transient : Bool) (source : ServiceError)
  deriving DecidableEq

namespace ServiceError

def isTransient : ServiceError → Bool
  | .reported transient _ => transient
  | .wrapping transient _ => transient

def introduction (transient : Bool) : String :=
  "the workflow service returned a " ++ (if transient then "transient" else "permanent") ++
    " error: "

def text : ServiceError → String
  | .reported transient message => introduction transient ++ message
  | .wrapping transient source => introduction transient ++ source.text

/-- The texts of the sources, from the outside in; the last one is the message. -/
def sources : ServiceError → List String
  | .reported _ message => [message]
  | .wrapping _ source => source.text :: source.sources

/-- Wraps an error once for every entry, the first entry innermost. -/
def wrapAll (error : ServiceError) (transients : List Bool) : ServiceError :=
  transients.foldl (fun inner transient => .wrapping transient inner) error

end ServiceError

end DecisionWorker
