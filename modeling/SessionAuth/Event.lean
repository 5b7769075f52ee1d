/-!
# Log events

An event is written to the log with a level, a message and named texts.
-/

namespace SessionAuth

/-- How grave an event is. -/
inductive Level where
  | trace
  | debug
  | info
  | warn
  | error
deriving DecidableEq, Repr

/-- The rank of a level; graver levels come first. -/
def Level.rank : Level → Nat
  | error => 1
  | warn => 2
  | info => 3
  | debug => 4
  | trace => 5

/-- The name of a level. -/
def Level.name : Level → String
  | trace => "TRACE"
  | debug => "DEBUG"
  | info => "INFO"
  | warn => "WARN"
  | error => "ERROR"

/-- An entry of the log. A detail is a second message. -/
structure Event where
  level : Level
  message : String
  detail : Option String := none
  fields : List (String × String) := []
deriving DecidableEq, Repr

namespace Event

/-- The message with its detail. -/
def text (e : Event) : String :=
  match e.detail with
  | some detail => e.message ++ " | " ++ detail
  | none => e.message

end Event

end SessionAuth
