import Telemetry.Decimal.Binary
import Telemetry.Duration

set_option autoImplicit false

/-! # Pauses between attempts

The pause before a retry grows by a constant factor from one retry to the next, up to a limit.
The growth is worked out on floats, which may overflow or be no number; a pause that cannot be
told is the limit. -/

namespace Telemetry

/-! ## Durations as floats -/

/-- The span in seconds, rounded. -/
def Duration.toFloat (d : Duration) : Float :=
  d.seconds.toUInt64.toFloat + d.subsecNanos.toUInt64.toFloat / 1000000000.0

/-- A quotient rounded to the nearest whole number, a half to the even one. -/
def roundQuotient (n d : Nat) : Nat :=
  let q := n / d
  let twice := 2 * (n % d)
  if twice < d then q
  else if d < twice then q + 1
  else if q % 2 = 0 then q
  else q + 1

/-- A finite magnitude in seconds, as nanoseconds. -/
def nanosOf (x : Decimal.Binary) : Nat :=
  roundQuotient (x.m * nanosPerSecond * Decimal.wholePower 2 x.q) (Decimal.wholePower 2 (-x.q))

/-- The span of so many seconds, to the nearest nanosecond; `none` if the float is no number,
negative or out of range. -/
def Duration.ofFloat? (x : Float) : Option Duration :=
  if 0.0 ≤ x ∧ x < 18446744073709551616.0 then Duration.ofNanos? (nanosOf (.ofFloat x)) else none

/-! ## Growth -/

/-- The power of a float, by squaring: `r * a^n`. -/
def powerTimes (r a : Float) (n : Nat) : Float :=
  let r := if n % 2 = 1 then r * a else r
  if h : n / 2 = 0 then r else powerTimes r (a * a) (n / 2)
termination_by n
decreasing_by omega

/-- The power of a float. -/
def power (a : Float) (n : Nat) : Float :=
  powerTimes 1.0 a n

/-- How an exporter retries. -/
structure RetryConfig where
  /-- How many attempts follow the first one at most. -/
  maxRetries : UInt32
  /-- The pause before the first retry. -/
  baseDelay : Duration
  /-- The longest pause. -/
  maxDelay : Duration
  /-- What a pause is multiplied by for the next one; one if it is less than one. -/
  multiplier : Float

namespace RetryConfig

/-- Equality of settings: the multipliers compare as numbers, so NaN differs from itself. -/
def same (a b : RetryConfig) : Bool :=
  a.maxRetries == b.maxRetries && a.baseDelay == b.baseDelay && a.maxDelay == b.maxDelay &&
    a.multiplier == b.multiplier

instance : BEq RetryConfig := ⟨same⟩

/-- Pauses that double, up to 64 times the first one. -/
def doubling (maxRetries : UInt32) (baseDelay : Duration) : RetryConfig where
  maxRetries := maxRetries
  baseDelay := baseDelay
  maxDelay := baseDelay.saturatingMul 64
  multiplier := 2.0

/-- Three retries, from 50 milliseconds up to five seconds. -/
def default : RetryConfig :=
  { doubling 3 (Duration.ofMillis 50) with maxDelay := Duration.ofSecs 5 }

/-- The largest exponent that is used. -/
def maxExponent : Nat := UInt32.size / 2 - 1

/-- The factor of the pause before a retry, counted from one. -/
def growth (c : RetryConfig) (retry : Nat) : Float :=
  power (if 1.0 < c.multiplier then c.multiplier else 1.0) (min (retry - 1) maxExponent)

/-- The pause before a retry, counted from one. -/
def backoff (c : RetryConfig) (retry : Nat) : Duration :=
  match Duration.ofFloat? (c.baseDelay.toFloat * c.growth retry) with
  | some delay => delay.min c.maxDelay
  | none => c.maxDelay

end RetryConfig

end Telemetry
