import Telemetry.Decimal.Whole

set_option autoImplicit false

/-! # Reading floats

A float in decimal notation: digits with or without a point among or around them, with or without
an exponent, or the word for infinity or for no number, in letters of either case. The float
nearest to the decimal is the answer, a half going to the even one. -/

namespace Telemetry.Decimal

/-- A text in small letters. -/
def lowerCase (cs : List Char) : List Char :=
  cs.map Char.toLower

/-- A sign in front of a text, and the text behind it; no sign counts as plus. -/
def splitSign : List Char → Bool × List Char
  | '-' :: cs => (true, cs)
  | '+' :: cs => (false, cs)
  | cs => (false, cs)

/-- The exponent behind the digits; zero if there is none. -/
def exponent? : List Char → Option Int
  | [] => some 0
  | c :: cs =>
    if c.toLower = 'e' then
      let (isNegative, ds) := splitSign cs
      match ds with
      | [] => none
      | ds => (digitsValue? ds).map fun n => if isNegative then -(n : Int) else n
    else none

/-- The digits behind the point, and what follows them; no point counts as no digits. -/
def splitFraction : List Char → List Char × List Char
  | '.' :: cs => cs.span Char.isDigit
  | cs => ([], cs)

/-- The float nearest to `n * 10^e`. Decimals so large or so small that every float is on one side
of them are not worked out. -/
def nearestFloat (n digits : Nat) (e : Int) : Float :=
  if n = 0 ∨ e + digits < -400 then 0.0
  else if 400 < e + digits then 1.0 / 0.0
  else Float.ofScientific n (e < 0) e.natAbs

/-- The float without a sign that a text stands for. -/
def magnitude? (cs : List Char) : Option Float :=
  let word := lowerCase cs
  if word = ['i', 'n', 'f'] ∨ word = ['i', 'n', 'f', 'i', 'n', 'i', 't', 'y'] then
    some (1.0 / 0.0)
  else if word = ['n', 'a', 'n'] then some (0.0 / 0.0)
  else
    let (whole, rest) := cs.span Char.isDigit
    let (fraction, rest) := splitFraction rest
    let digits := whole ++ fraction
    if digits.isEmpty then none
    else do
      let e ← exponent? rest
      let n ← digitsValue? digits
      return nearestFloat n (digits.dropWhile (· == '0')).length (e - fraction.length)

/-- The float that a text stands for. -/
def float? (text : String) : Option Float :=
  let (isNegative, cs) := splitSign text.toList
  (magnitude? cs).map fun x => if isNegative then -x else x

end Telemetry.Decimal
