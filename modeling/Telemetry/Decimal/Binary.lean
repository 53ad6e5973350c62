set_option autoImplicit false

/-! # The exact value of a float

A finite 64-bit float is a whole number times a power of two. The types here hold such a value
and a decimal beside it, and compare the two by cross-multiplying whole numbers, so nothing is
rounded on the way. -/

namespace Telemetry.Decimal

/-- A finite magnitude `m * 2^q`. -/
structure Binary where
  m : Nat
  q : Int
  /-- Whether the gap to the value below is half the gap to the value above. -/
  narrowBelow : Bool
deriving DecidableEq

/-- The number of values of a float's fraction, which has 52 bits. -/
def fractionCount : Nat := 4503599627370496

/-- The magnitude of a finite float. -/
def Binary.ofFloat (x : Float) : Binary :=
  let bits : Nat := x.toBits.toNat % (UInt64.size / 2)
  let e : Nat := bits / fractionCount
  let f : Nat := bits % fractionCount
  if e = 0 then ⟨f, -1074, false⟩ else ⟨fractionCount + f, (e : Int) - 1075, f == 0 && 1 < e⟩

/-- Whether the sign bit of a float is set; negative zero has it. -/
def signBit (x : Float) : Bool :=
  x.toBits.toNat / (UInt64.size / 2) == 1

/-- A decimal `digits * 10^exp`. -/
structure Scaled where
  digits : Nat
  exp : Int
deriving DecidableEq

/-- The power of a whole number, which is one for a negative exponent. -/
def wholePower (b : Nat) (e : Int) : Nat :=
  Nat.pow b e.toNat

/-- Compares `a * 10^i` with `n * 2^j` exactly. -/
def compareScaled (a : Nat) (i : Int) (n : Nat) (j : Int) : Ordering :=
  compare (a * wholePower 10 i * wholePower 2 (-j)) (n * wholePower 2 j * wholePower 10 (-i))

/-- Whether a decimal lies among the reals that round to `x`: between the midpoints to its two
neighbours, the midpoints themselves included exactly when `m` is even. -/
def Binary.readsBack (x : Binary) (d : Scaled) : Bool :=
  let lo := if x.narrowBelow then 4 * x.m - 1 else 4 * x.m - 2
  let below := compareScaled d.digits d.exp lo (x.q - 2)
  let above := compareScaled d.digits d.exp (4 * x.m + 2) (x.q - 2)
  let even := x.m % 2 == 0
  (below == .gt || (even && below == .eq)) && (above == .lt || (even && above == .eq))

end Telemetry.Decimal
