import Telemetry.Text.Hidden

set_option autoImplicit false

/-! # Quoted strings in diagnostics

A diagnostic shows a string in double quotes on one line. A quote and a backslash are escaped,
tab, line feed, carriage return and NUL have short forms, and characters that would not show as
themselves are written by their code. A single quote stays as it is. -/

namespace Telemetry.Text

/-- A character by its code, in lower case hexadecimal without padding. -/
def codeEscape (c : Char) : List Char :=
  '\\' :: 'u' :: '\x7b' :: Nat.toDigits 16 c.toNat ++ ['\x7d']

/-- One character inside a quoted string. -/
def quotedChar (c : Char) : List Char :=
  match c with
  | '"' => ['\\', '"']
  | '\\' => ['\\', '\\']
  | '\t' => ['\\', 't']
  | '\n' => ['\\', 'n']
  | '\r' => ['\\', 'r']
  | '\x00' => ['\\', '0']
  | c => if isHidden c then codeEscape c else [c]

/-- A string in double quotes. -/
def quoted (s : String) : String :=
  String.ofList ('"' :: s.toList.flatMap quotedChar ++ ['"'])

end Telemetry.Text
