import Telemetry.Decimal.Shortest

set_option autoImplicit false

/-! # Written forms of a float

A float is written from its shortest digits. Magnitudes near one are positional, with a point
and at least one digit behind it; the others have one digit before the point and an exponent.
What a particular output decides beyond that is one `Format` value. -/

namespace Telemetry.Decimal

/-- The decisions of one output. The exponent of a number is that of its first digit. -/
structure Format where
  /-- The least exponent written positionally. -/
  plainFrom : Int
  /-- The first exponent from which numbers are no longer written positionally. -/
  plainBelow : Int
  /-- Whether an exponent that is not negative carries a plus sign. -/
  exponentPlus : Bool
  tie : Tie
  nan : String
  infinity : String
  negInfinity : String

/-- The digits of a number, first digit first. -/
def digitsOf (n : Nat) : List Char :=
  Nat.toDigits 10 n

/-- An exponent with its sign. -/
def Format.exponent (f : Format) (e : Int) : List Char :=
  if e < 0 then '-' :: digitsOf e.natAbs
  else if f.exponentPlus then '+' :: digitsOf e.natAbs
  else digitsOf e.natAbs

/-- The digits of a positive decimal laid out: the point after, inside or before the digits, or
an exponent. -/
def Format.layout (f : Format) (d : Scaled) : List Char :=
  let ds := digitsOf d.digits
  let e : Int := d.exp + ds.length - 1
  if f.plainFrom ≤ e ∧ e < f.plainBelow then
    if 0 ≤ d.exp then
      ds ++ List.replicate d.exp.toNat '0' ++ ['.', '0']
    else if 0 ≤ e then
      ds.take (e.toNat + 1) ++ '.' :: ds.drop (e.toNat + 1)
    else
      '0' :: '.' :: List.replicate (-e - 1).toNat '0' ++ ds
  else
    match ds with
    | [c] => c :: 'e' :: f.exponent e
    | c :: rest => c :: '.' :: rest ++ 'e' :: f.exponent e
    | [] => []

/-- The text of a finite float. -/
def Format.finite (f : Format) (x : Float) : List Char :=
  let b := Binary.ofFloat x
  let magnitude := if b.m = 0 then ['0', '.', '0'] else f.layout (b.shortest f.tie)
  if signBit x then '-' :: magnitude else magnitude

/-- The text of a float. -/
def Format.render (f : Format) (x : Float) : String :=
  if x.isNaN then f.nan
  else if x.isInf then (if signBit x then f.negInfinity else f.infinity)
  else String.ofList (f.finite x)

end Telemetry.Decimal
