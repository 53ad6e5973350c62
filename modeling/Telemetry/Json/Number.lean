import Telemetry.Json.Fault

set_option autoImplicit false

/-! # Reading numbers

A number without a point or an exponent stays a whole number while it fits 64 bits; every other
number is a float. The digits of a float are gathered into a 64-bit significand. From the first
digit that no longer fits, digits before the point only raise the exponent and digits behind it
are dropped. The significand is then converted and scaled by one power of ten, or by several if
the exponent is below -308, each step rounding once. So a written float may read back as one of
its neighbours. A float that leaves the range is refused. -/

namespace Telemetry.Json

/-- A number as it was read. -/
inductive Number where
  | natural (n : UInt64)
  | negative (i : Int64)
  | float (x : Float)

/-- What a number is called when it stands in the wrong place. -/
def Number.found : Number → Found
  | .natural n => .integer n.toNat
  | .negative i => .integer i.toInt
  | .float x => .float x

/-! ## Significand -/

/-- The value of a decimal digit. -/
def digitValue (c : Char) : Nat :=
  c.toNat - '0'.toNat

/-- Appends digits to a number while the result stays below `limit`; the digits from the first
one that does not fit are left over. -/
def gather (limit n : Nat) : List Char → Nat × List Char
  | [] => (n, [])
  | d :: ds =>
    let n' := n * 10 + digitValue d
    if n' < limit then gather limit n' ds else (n, d :: ds)

/-- The digits at the front of a text and what follows them. -/
def spanDigits (cs : List Char) : List Char × List Char :=
  cs.span Char.isDigit

/-! ## Scaling -/

/-- The float nearest to a power of ten. -/
def powerOfTen (k : Nat) : Float :=
  Float.ofScientific 1 false k

/-- Scales by a power of ten in steps of at most 308 decimal places; `steps` bounds the number of
steps down. -/
def scaleBy (f : Float) (e : Int) : Nat → Reading Float
  | 0 => .ok f
  | steps + 1 =>
    if e.natAbs ≤ 308 then
      if 0 ≤ e then
        let g := f * powerOfTen e.natAbs
        if g.isInf then .error .malformed else .ok g
      else .ok (f / powerOfTen e.natAbs)
    else if f == 0 then .ok f
    else if 0 ≤ e then .error .malformed
    else scaleBy (f / powerOfTen 308) (e + 308) steps

/-- The float with the given sign, significand and decimal exponent. -/
def floatOf (positive : Bool) (significand : Nat) (e : Int) : Reading Float := do
  let f ← scaleBy significand.toUInt64.toFloat e (e.natAbs / 308 + 1)
  return if positive then f else -f

/-! ## Grammar -/

/-- Reads the exponent behind its letter and finishes the float. An exponent of more than 31 bits
makes every significand but zero too large, or the value zero. -/
def readExponent (positive : Bool) (significand : Nat) (start : Int) (cs : List Char) :
    Reading (Float × List Char) := do
  let (up, cs) := match cs with
    | '+' :: cs => (true, cs)
    | '-' :: cs => (false, cs)
    | cs => (true, cs)
  match spanDigits cs with
  | ([], []) => throw .ended
  | ([], _) => throw .malformed
  | (ds, rest) =>
    match gather (UInt32.size / 2) 0 ds with
    | (e, []) =>
      return (← floatOf positive significand (if up then start + e else start - e), rest)
    | (_, _ :: _) =>
      if significand ≠ 0 ∧ up then throw .malformed
      else return (if positive then 0.0 else -0.0, rest)

/-- Finishes a float whose digits are all read: an exponent may follow. -/
def readScale (positive : Bool) (significand : Nat) (e : Int) (cs : List Char) :
    Reading (Float × List Char) :=
  match cs with
  | 'e' :: rest => readExponent positive significand e rest
  | 'E' :: rest => readExponent positive significand e rest
  | rest => do return (← floatOf positive significand e, rest)

/-- Reads the digits behind the point and finishes the float. -/
def readFraction (positive : Bool) (significand : Nat) (e : Int) (cs : List Char) :
    Reading (Float × List Char) :=
  match spanDigits cs with
  | ([], []) => .error .ended
  | ([], _) => .error .malformed
  | (ds, rest) =>
    let (n, dropped) := gather UInt64.size significand ds
    readScale positive n (e - (ds.length - dropped.length : Nat)) rest

/-- A whole number with its sign. Minus zero and numbers below the signed 64-bit range are
floats. -/
def wholeNumber (positive : Bool) (n : Nat) : Number :=
  if positive then .natural n.toUInt64
  else if n = 0 ∨ UInt64.size / 2 < n then .float (-n.toUInt64.toFloat)
  else .negative (-(n : Int)).toInt64

/-- Reads a number from behind its sign. -/
def readNumber (positive : Bool) (cs : List Char) : Reading (Number × List Char) :=
  match spanDigits cs with
  | ([], []) => .error .ended
  | ([], _) => .error .malformed
  | ('0' :: _ :: _, _) => .error .malformed
  | (ds, rest) =>
    let (n, beyond) := gather UInt64.size 0 ds
    match rest with
    | '.' :: rest => (readFraction positive n beyond.length rest).map fun p => (.float p.1, p.2)
    | rest =>
      match beyond, rest with
      | [], 'e' :: _ => (readScale positive n 0 rest).map fun p => (.float p.1, p.2)
      | [], 'E' :: _ => (readScale positive n 0 rest).map fun p => (.float p.1, p.2)
      | [], rest => .ok (wholeNumber positive n, rest)
      | beyond, rest => (readScale positive n beyond.length rest).map fun p => (.float p.1, p.2)

/-- Reads a whole number of at most 128 bits, without a sign. -/
def readLongNatural (cs : List Char) : Reading (BitVec 128 × List Char) :=
  match spanDigits cs with
  | ([], _) => .error .malformed
  | ('0' :: _ :: _, _) => .error .malformed
  | (ds, rest) =>
    match gather (UInt64.size * UInt64.size) 0 ds with
    | (n, []) => .ok (BitVec.ofNat 128 n, rest)
    | (_, _ :: _) => .error .malformed

/-! ## Skipping -/

/-- Passes over an exponent behind its letter. -/
def skipExponent (cs : List Char) : Reading (List Char) :=
  let cs := match cs with
    | '+' :: cs => cs
    | '-' :: cs => cs
    | cs => cs
  match spanDigits cs with
  | ([], _) => .error .malformed
  | (_, rest) => .ok rest

/-- Passes over an exponent, if there is one. -/
def skipScale (cs : List Char) : Reading (List Char) :=
  match cs with
  | 'e' :: rest => skipExponent rest
  | 'E' :: rest => skipExponent rest
  | rest => .ok rest

/-- Passes over a number from behind its sign. Unlike a number that is read, one that is skipped
may be of any size, and where it breaks off the text counts as malformed. -/
def skipNumber (cs : List Char) : Reading (List Char) :=
  match spanDigits cs with
  | ([], _) => .error .malformed
  | ('0' :: _ :: _, _) => .error .malformed
  | (_, '.' :: rest) =>
    match spanDigits rest with
    | ([], _) => .error .malformed
    | (_, rest) => skipScale rest
  | (_, rest) => skipScale rest

end Telemetry.Json
