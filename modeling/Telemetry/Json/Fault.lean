import Telemetry.Json.Format
import Telemetry.Text.Quoted

set_option autoImplicit false

/-! # What can be wrong with a text

Reading stops at the first problem in the text. A text may end too early, may not be JSON, or may
be JSON of the wrong shape; only the last kind has a message of its own. -/

namespace Telemetry.Json

/-- A value met where another was expected. -/
inductive Found where
  | null
  | boolean (b : Bool)
  | integer (i : Int)
  | float (x : Float)
  | string (s : String)
  | array
  | object

/-- How a value is named in a message. -/
def Found.describe : Found → String
  | .null => "null"
  | .boolean b => "boolean `" ++ Json.boolean b ++ "`"
  | .integer i => "integer `" ++ Json.integer i ++ "`"
  | .float x => "floating point `" ++ Json.float x ++ "`"
  | .string s => "string " ++ Text.quoted s
  | .array => "sequence"
  | .object => "map"

/-- JSON that does not have the expected shape. -/
inductive Mismatch where
  /-- A value of another kind. -/
  | wrongKind (found : Found) (expected : String)
  /-- A value of the right kind outside its range. -/
  | outOfRange (found : Found) (expected : String)
  /-- A list that ends before all fields are there. -/
  | tooShort (length : Nat) (expected : String)
  /-- A name that is none of those allowed. -/
  | unknownName (name : String) (known : List String)
  /-- A field that is given twice. -/
  | duplicateField (name : String)
  /-- A field that is not given. -/
  | missingField (name : String)
  /-- A value that fits none of the alternatives of a type. -/
  | noAlternative (type : String)

/-- A name in backquotes. -/
def backquoted (name : String) : String :=
  "`" ++ name ++ "`"

/-- The names that would have been allowed. -/
def oneOf (known : List String) : String :=
  match known with
  | [a] => backquoted a
  | [a, b] => backquoted a ++ " or " ++ backquoted b
  | names => "one of " ++ ", ".intercalate (names.map backquoted)

/-- The message of a mismatch. -/
def Mismatch.message : Mismatch → String
  | .wrongKind found expected =>
    "invalid type: " ++ found.describe ++ ", expected " ++ expected
  | .outOfRange found expected =>
    "invalid value: " ++ found.describe ++ ", expected " ++ expected
  | .tooShort length expected =>
    "invalid length " ++ Nat.repr length ++ ", expected " ++ expected
  | .unknownName name known =>
    "unknown variant " ++ backquoted name ++ ", expected " ++ oneOf known
  | .duplicateField name => "duplicate field " ++ backquoted name
  | .missingField name => "missing field " ++ backquoted name
  | .noAlternative type => "data did not match any variant of untagged enum " ++ type

/-- Why a text was not accepted. -/
inductive Fault where
  /-- The text ends too early. -/
  | ended
  /-- The text is not JSON, or goes beyond a limit of the reader. -/
  | malformed
  /-- The text is JSON of the wrong shape. -/
  | mismatch (m : Mismatch)

/-- The outcome of reading from the front of a text. A reader answers with the value and with what
is left of the text. -/
abbrev Reading := Except Fault

end Telemetry.Json
