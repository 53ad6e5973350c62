set_option autoImplicit false

/-! # Diagnostic events

What the library reports about itself while it runs: an event has a level, a message and named
fields. -/

namespace Telemetry

/-- How grave an event is. -/
inductive Event.Level where
  | debug
  | warn
  | error
deriving DecidableEq

/-- The name of a level. -/
def Event.Level.name : Event.Level → String
  | .debug => "DEBUG"
  | .warn => "WARN"
  | .error => "ERROR"

/-- The value of a field. -/
inductive Event.Field where
  | text (s : String)
  | number (n : Nat)
deriving DecidableEq

/-- A report. -/
structure Event where
  level : Event.Level
  message : String
  fields : List (String × Event.Field)
deriving DecidableEq

end Telemetry
