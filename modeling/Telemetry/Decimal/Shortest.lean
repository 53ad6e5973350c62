import Telemetry.Decimal.Binary

set_option autoImplicit false

/-! # The fewest digits that read back

The shortest decimal of a float is the one with the fewest digits among those that round to it,
and among those of the fewest digits the one nearest to it. On a grid of decimals with a fixed
last place only the two neighbours of the value can be nearest, so the search tries these two
for one digit, two digits and so on up to seventeen. When both neighbours read back and are
equally near, the `Tie` decides. -/

namespace Telemetry.Decimal

/-- Which of two equally near decimals is taken. -/
inductive Tie where
  | toEven
  | up
deriving DecidableEq

/-! ## Scale -/

/-- Counts up from `e` until `m * 2^q < 10^e`, at most `steps` times. -/
def raiseScale (x : Binary) (e : Int) : Nat → Int
  | 0 => e
  | steps + 1 => if compareScaled 1 e x.m x.q == .gt then e else raiseScale x (e + 1) steps

/-- The least `e` with `m * 2^q < 10^e`, for `m` positive. The first guess comes from the binary
logarithm and is too small by at most two. -/
def Binary.scale (x : Binary) : Int :=
  raiseScale x (((x.m.log2 : Int) + x.q) * 30103 / 100000 - 1) 5

/-! ## Search -/

/-- The whole part of `m * 2^q / 10^e`. -/
def Binary.onGrid (x : Binary) (e : Int) : Nat :=
  x.m * wholePower 2 x.q * wholePower 10 (-e) / (wholePower 10 e * wholePower 2 (-x.q))

/-- The neighbour of the value on the grid of `10^e` that reads back, the nearer one of two. -/
def Binary.nearestOnGrid (x : Binary) (tie : Tie) (e : Int) : Option Scaled :=
  let d := x.onGrid e
  let lower := x.readsBack ⟨d, e⟩
  let upper := x.readsBack ⟨d + 1, e⟩
  if lower && upper then
    match compareScaled (2 * d + 1) e (2 * x.m) x.q with
    | .gt => some ⟨d, e⟩
    | .lt => some ⟨d + 1, e⟩
    | .eq => if tie = .toEven && d % 2 == 0 then some ⟨d, e⟩ else some ⟨d + 1, e⟩
  else if lower then some ⟨d, e⟩
  else if upper then some ⟨d + 1, e⟩
  else none

/-- The value written out in full. -/
def Binary.exact (x : Binary) : Scaled :=
  ⟨x.m * wholePower 2 x.q * wholePower 5 (-x.q), -((-x.q).toNat : Int)⟩

/-- Moves the zeros at the end of the digits into the exponent, at most `steps` of them. -/
def Scaled.stripZeros (d : Scaled) : Nat → Scaled
  | 0 => d
  | steps + 1 =>
    if d.digits % 10 = 0 ∧ d.digits ≠ 0 then Scaled.stripZeros ⟨d.digits / 10, d.exp + 1⟩ steps
    else d

/-- The shortest decimal that reads back, for a positive value. -/
def Binary.shortest (x : Binary) (tie : Tie) : Scaled :=
  let scale := x.scale
  let found := (List.range 17).findSome? fun (n : Nat) =>
    x.nearestOnGrid tie (scale - ((n : Int) + 1))
  (found.getD x.exact).stripZeros 800

end Telemetry.Decimal
