set_option autoImplicit false

/-! # Reading whole numbers

A whole number is one or more decimal digits, with or without a plus sign in front. A number that
does not fit the word is no number. -/

namespace Telemetry.Decimal

/-- The value of decimal digits, if all characters are digits. -/
def digitsValue? (cs : List Char) : Option Nat :=
  cs.foldl (fun n c => n.bind fun n =>
    if '0' ≤ c ∧ c ≤ '9' then some (n * 10 + (c.toNat - '0'.toNat)) else none) (some 0)

/-- The digits of a number without its plus sign. -/
def dropPlus : List Char → List Char
  | '+' :: cs => cs
  | cs => cs

/-- The word that a text stands for. -/
def word? (cs : List Char) : Option UInt64 :=
  match dropPlus cs with
  | [] => none
  | ds =>
    match digitsValue? ds with
    | some n => if n < UInt64.size then some n.toUInt64 else none
    | none => none

end Telemetry.Decimal
