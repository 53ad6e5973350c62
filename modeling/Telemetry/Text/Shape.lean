set_option autoImplicit false

/-! # One-line texts of structured values

Diagnostics show a value as its constructor with the parts behind it: named parts in braces,
positional parts in parentheses, lists in brackets. The functions here only place the
punctuation; the parts come in as finished texts. None of them adds a line break, so a value
whose parts stay on one line does so too. -/

namespace Telemetry.Text

/-- The parts separated by a comma and a blank. -/
def commaSeparated (parts : List String) : String :=
  ", ".intercalate parts

/-- A value with named parts: the name, then `field: value` pairs in braces. -/
def braced (name : String) (fields : List (String × String)) : String :=
  name ++ " \x7b " ++ commaSeparated (fields.map fun f => f.1 ++ ": " ++ f.2) ++ " \x7d"

/-- A value with positional parts in parentheses. -/
def applied (name : String) (args : List String) : String :=
  name ++ "(" ++ commaSeparated args ++ ")"

/-- A list in brackets. -/
def bracketed (items : List String) : String :=
  "[" ++ commaSeparated items ++ "]"

/-- A part that may be missing. -/
def optional (part : Option String) : String :=
  match part with
  | none => "None"
  | some text => applied "Some" [text]

end Telemetry.Text
