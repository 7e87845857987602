import DecisionWorker.Binary64.Text
import DecisionWorker.Text.Quoted

set_option autoImplicit false

/-!
Log events: a level, a message, and named fields.

A field is kept as text, and a name has one text only. What is logged without a message has
the empty one.
-/

namespace DecisionWorker

inductive Level where
  | error
  | warn
  | info
  | debug
  | trace
  deriving DecidableEq

def Level.all : List Level := [.error, .warn, .info, .debug, .trace]

def Level.text : Level → String
  | .error => "ERROR"
  | .warn => "WARN"
  | .info => "INFO"
  | .debug => "DEBUG"
  | .trace => "TRACE"

inductive FieldValue where
  | text (content : String)
  | quoted (content : String)
  | integer (number : Int)
  | flag (on : Bool)
  | double (number : Binary64)

def FieldValue.asText : FieldValue → String
  | .text content => content
  | .quoted content => Quoted.text content
  | .integer number => toString number
  | .flag on => if on then "true" else "false"
  | .double number => Binary64.Style.marked.text number

structure Event where
  level : Level
  message : String
  fields : List (String × String)
  deriving DecidableEq

def messageField : String := "message"

structure Emission where
  level : Level
  values : List (String × FieldValue)

/-- Fields with one more. It takes the place of a field that had its name. -/
def setField (fields : List (String × String)) (name content : String) : List (String × String) :=
  fields.filter (fun field => field.1 != name) ++ [(name, content)]

/-- Everything that is logged, the message among the other fields. -/
def Emission.fields (emission : Emission) : List (String × String) :=
  emission.values.foldl (fun fields value => setField fields value.1 value.2.asText) []

/-- The event that is recorded of an emission: the message leaves the fields. -/
def Emission.event (emission : Emission) : Event where
  level := emission.level
  message := (emission.fields.lookup messageField).getD ""
  fields := emission.fields.filter fun field => field.1 != messageField

def Event.say (level : Level) (message : String) (values : List (String × FieldValue)) : Event :=
  { level, message, fields := values.map fun field => (field.1, field.2.asText) }

end DecisionWorker
