import Telemetry.Json.Fault

set_option autoImplicit false

/-! # Reading strings

A string is read up to its closing quote. Code points beyond the first plane may be escaped as a
pair of surrogates; a surrogate without its partner, a control character and an unknown escape
are no JSON. A string that is skipped and not kept only has to be delimited correctly: its
surrogates are not paired up. -/

namespace Telemetry.Json

/-! ## Escapes -/

/-- The value of a hexadecimal digit of either case. -/
def hexValue (c : Char) : Option Nat :=
  if '0' ≤ c ∧ c ≤ '9' then some (c.toNat - '0'.toNat)
  else if 'a' ≤ c ∧ c ≤ 'f' then some (c.toNat - 'a'.toNat + 10)
  else if 'A' ≤ c ∧ c ≤ 'F' then some (c.toNat - 'A'.toNat + 10)
  else none

/-- The value of four hexadecimal digits. -/
def hexUnit (a b c d : Char) : Option Nat := do
  return (((← hexValue a) * 16 + (← hexValue b)) * 16 + (← hexValue c)) * 16 + (← hexValue d)

/-- The problem with fewer than four characters behind a hexadecimal escape: the text ends too
early, unless their encoding fills four bytes, none of which can be a digit of the escape. -/
def shortEscape (cs : List Char) : Fault :=
  if (String.ofList cs).utf8ByteSize < 4 then .ended else .malformed

/-- The character that a one-letter escape stands for. -/
def plainEscape : Char → Option Char
  | '"' => some '"'
  | '\\' => some '\\'
  | '/' => some '/'
  | 'b' => some '\x08'
  | 'f' => some '\x0c'
  | 'n' => some '\n'
  | 'r' => some '\r'
  | 't' => some '\t'
  | _ => none

/-- A unit that must come first in a pair. -/
def isHighSurrogate (n : Nat) : Bool :=
  0xd800 ≤ n && n ≤ 0xdbff

/-- A unit that must come second in a pair. -/
def isLowSurrogate (n : Nat) : Bool :=
  0xdc00 ≤ n && n ≤ 0xdfff

/-- The character that a pair of surrogates encodes. -/
def pairedChar (high low : Nat) : Char :=
  Char.ofNat ((high - 0xd800) * 0x400 + (low - 0xdc00) + 0x10000)

/-- Puts a character in front of a string that was read behind it. -/
def consChar (c : Char) (r : Reading (List Char × List Char)) :
    Reading (List Char × List Char) :=
  r.map fun p => (c :: p.1, p.2)

/-! ## Strings -/

/-- Reads a string that is kept, from behind its opening quote. -/
def readQuoted : List Char → Reading (List Char × List Char)
  | [] => .error .ended
  | '"' :: cs => .ok ([], cs)
  | '\\' :: 'u' :: a :: b :: c :: d :: cs =>
    match hexUnit a b c d with
    | none => .error .malformed
    | some n =>
      if isLowSurrogate n then .error .malformed
      else if isHighSurrogate n then
        match cs with
        | '\\' :: 'u' :: e :: f :: g :: h :: cs' =>
          match hexUnit e f g h with
          | none => .error .malformed
          | some low =>
            if isLowSurrogate low then consChar (pairedChar n low) (readQuoted cs')
            else .error .malformed
        | '\\' :: 'u' :: short => .error (shortEscape short)
        | ['\\'] => .error .ended
        | [] => .error .ended
        | _ => .error .malformed
      else consChar (Char.ofNat n) (readQuoted cs)
  | '\\' :: 'u' :: short => .error (shortEscape short)
  | ['\\'] => .error .ended
  | '\\' :: c :: cs =>
    match plainEscape c with
    | some x => consChar x (readQuoted cs)
    | none => .error .malformed
  | c :: cs => if c.toNat < 32 then .error .malformed else consChar c (readQuoted cs)

/-- Passes over a string that is not kept, from behind its opening quote. -/
def skipQuoted : List Char → Reading (List Char)
  | [] => .error .ended
  | '"' :: cs => .ok cs
  | '\\' :: 'u' :: a :: b :: c :: d :: cs =>
    match hexUnit a b c d with
    | none => .error .malformed
    | some _ => skipQuoted cs
  | '\\' :: 'u' :: short => .error (shortEscape short)
  | ['\\'] => .error .ended
  | '\\' :: c :: cs => if (plainEscape c).isSome then skipQuoted cs else .error .malformed
  | c :: cs => if c.toNat < 32 then .error .malformed else skipQuoted cs

end Telemetry.Json
