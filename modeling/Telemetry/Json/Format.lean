import Telemetry.Decimal.Notation

set_option autoImplicit false

/-! # Compact JSON text

Writing needs no value tree: a compact text is put together from the texts of its parts. Inside
a string a quote, a backslash and the control characters below a blank are escaped and every
other character stands for itself, so no written value holds a raw line break. Floats keep their
shortest digits; NaN and the infinities have no JSON form and are written as `null`. -/

namespace Telemetry.Json

/-! ## Strings -/

/-- A hexadecimal digit, in lower case. -/
def hexDigit (n : Nat) : Char :=
  if n < 10 then Char.ofNat (n + '0'.toNat) else Char.ofNat (n - 10 + 'a'.toNat)

/-- One character inside a string. -/
def escapeChar (c : Char) : List Char :=
  match c with
  | '"' => ['\\', '"']
  | '\\' => ['\\', '\\']
  | '\x08' => ['\\', 'b']
  | '\x0c' => ['\\', 'f']
  | '\n' => ['\\', 'n']
  | '\r' => ['\\', 'r']
  | '\t' => ['\\', 't']
  | c =>
    if c.toNat < 32 then
      ['\\', 'u', '0', '0', hexDigit (c.toNat / 16), hexDigit (c.toNat % 16)]
    else [c]

/-- The characters of a string between its quotes. -/
def escape (s : List Char) : List Char :=
  s.flatMap escapeChar

/-- A string in quotes. -/
def quote (s : String) : String :=
  String.ofList ('"' :: escape s.toList ++ ['"'])

/-! ## Numbers -/

/-- Numbers from 0.00001 up to below 10^16 are positional, the others have an exponent that
always carries its sign; of two equally near shortest decimals the even one is written. -/
def floatFormat : Decimal.Format where
  plainFrom := -5
  plainBelow := 16
  exponentPlus := true
  tie := .toEven
  nan := "null"
  infinity := "null"
  negInfinity := "null"

/-- A float. -/
def float (x : Float) : String :=
  floatFormat.render x

/-- A whole number that is not negative. -/
def natural (n : Nat) : String :=
  Nat.repr n

/-- A whole number. -/
def integer (i : Int) : String :=
  if i < 0 then "-" ++ Nat.repr i.natAbs else Nat.repr i.natAbs

/-! ## The other values -/

/-- A truth value. -/
def boolean (b : Bool) : String :=
  if b then "true" else "false"

/-- A value or `null`. -/
def nullable (text : Option String) : String :=
  text.getD "null"

/-- A list of finished texts. -/
def array (items : List String) : String :=
  "[" ++ ",".intercalate items ++ "]"

/-- Keys with finished texts. -/
def object (fields : List (String × String)) : String :=
  "\x7b" ++ ",".intercalate (fields.map fun f => quote f.1 ++ ":" ++ f.2) ++ "\x7d"

end Telemetry.Json
