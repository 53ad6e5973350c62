set_option autoImplicit false

/-! # Spans of time

A `Duration` is a whole number of nanoseconds below 2^64 seconds. Timeouts, delays and backoffs
are durations; arithmetic that would leave the range stops at its ends instead of wrapping. -/

namespace Telemetry

/-- Nanoseconds in one second. -/
def nanosPerSecond : Nat := 1000000000

/-- A span of time, counted in nanoseconds and shorter than 2^64 seconds. -/
@[ext]
structure Duration where
  nanos : Nat
  nanos_lt : nanos < UInt64.size * nanosPerSecond
deriving DecidableEq

namespace Duration

/-! ## Building -/

/-- The longest span, one nanosecond short of 2^64 seconds. -/
def max : Duration :=
  ⟨UInt64.size * nanosPerSecond - 1, by decide⟩

/-- The span of so many nanoseconds, or the longest one if there are too many. -/
def ofNanos (n : Nat) : Duration :=
  if h : n < UInt64.size * nanosPerSecond then ⟨n, h⟩ else max

/-- The span of so many nanoseconds, if it is in range. -/
def ofNanos? (n : Nat) : Option Duration :=
  if h : n < UInt64.size * nanosPerSecond then some ⟨n, h⟩ else none

/-- Whole seconds and the nanoseconds beyond them. -/
def ofParts (seconds nanos : Nat) : Duration :=
  ofNanos (seconds * nanosPerSecond + nanos)

/-- The span of so many seconds. -/
def ofSecs (seconds : Nat) : Duration :=
  ofParts seconds 0

/-- The span of so many milliseconds; no 64-bit count of them is out of range. -/
def ofMillis (millis : UInt64) : Duration :=
  ⟨millis.toNat * 1000000,
    by have := millis.toNat_lt; simp only [nanosPerSecond, UInt64.size]; omega⟩

/-- No time at all. -/
def zero : Duration :=
  ⟨0, by decide⟩

instance : Inhabited Duration := ⟨zero⟩

/-! ## Reading -/

/-- Whole seconds. -/
def seconds (d : Duration) : Nat :=
  d.nanos / nanosPerSecond

/-- Nanoseconds beyond the whole seconds. -/
def subsecNanos (d : Duration) : Nat :=
  d.nanos % nanosPerSecond

/-- Whole milliseconds, reduced modulo 2^64 as a 64-bit count of them is. -/
def millis (d : Duration) : UInt64 :=
  (d.nanos / 1000000).toUInt64

/-- Whether the span is empty. -/
def isZero (d : Duration) : Bool :=
  d.nanos == 0

instance : LE Duration := ⟨fun a b => a.nanos ≤ b.nanos⟩

instance : LT Duration := ⟨fun a b => a.nanos < b.nanos⟩

instance (a b : Duration) : Decidable (a ≤ b) :=
  inferInstanceAs (Decidable (a.nanos ≤ b.nanos))

instance (a b : Duration) : Decidable (a < b) :=
  inferInstanceAs (Decidable (a.nanos < b.nanos))

/-! ## Arithmetic that stops at the ends of the range -/

/-- The shorter of two spans. -/
def min (a b : Duration) : Duration :=
  if a ≤ b then a else b

/-- The sum of two spans, or the longest span. -/
def saturatingAdd (a b : Duration) : Duration :=
  ofNanos (a.nanos + b.nanos)

/-- The span repeated `k` times, or the longest span. -/
def saturatingMul (d : Duration) (k : Nat) : Duration :=
  ofNanos (d.nanos * k)

/-- What is left of a budget once `spent` is gone; nothing if more was spent than there was. -/
def saturatingSub (d spent : Duration) : Duration :=
  ⟨d.nanos - spent.nanos, Nat.lt_of_le_of_lt (Nat.sub_le ..) d.nanos_lt⟩

/-! ## Text -/

/-- The digits of `part` padded on the left to `places`, with the zeros at the end cut. -/
def fraction (part places : Nat) : List Char :=
  let digits := Nat.toDigits 10 part
  let padded := List.replicate (places - digits.length) '0' ++ digits
  (padded.reverse.dropWhile (· == '0')).reverse

/-- A count of units, the digits of what is left of the next unit below, and the unit. -/
def inUnit (whole part places : Nat) (unit : String) : String :=
  match fraction part places with
  | [] => Nat.repr whole ++ unit
  | digits => Nat.repr whole ++ "." ++ String.ofList digits ++ unit

/-- The span in the largest unit that gives a nonzero whole part, without needless zeros:
seconds, milliseconds, microseconds or nanoseconds. -/
def text (d : Duration) : String :=
  if nanosPerSecond ≤ d.nanos then
    inUnit d.seconds d.subsecNanos 9 "s"
  else if 1000000 ≤ d.nanos then
    inUnit (d.nanos / 1000000) (d.nanos % 1000000) 6 "ms"
  else if 1000 ≤ d.nanos then
    inUnit (d.nanos / 1000) (d.nanos % 1000) 3 "µs"
  else
    inUnit d.nanos 0 0 "ns"

end Duration

end Telemetry
