import Telemetry.Queue
import Telemetry.Text.Shape

set_option autoImplicit false

/-! # Settings of a ring

A ring holds a fixed number of records, at least one. Its positions are words whose low bits name
a slot and whose high bits count laps around the ring; `oneLap` is the distance of two laps, the
least power of two above the capacity. -/

namespace Telemetry.Ring

/-- Why a ring cannot be built. -/
inductive ConfigError where
  /-- A ring must be able to hold a record. -/
  | zeroCapacity
deriving DecidableEq

/-- The message of an error. -/
def ConfigError.message : ConfigError → String
  | .zeroCapacity => "ring capacity must be at least 1"

/-- The name of an error in diagnostics. -/
def ConfigError.debug : ConfigError → String
  | .zeroCapacity => "ZeroCapacity"

/-- The capacity of a ring that is given none. -/
def defaultCapacity : UInt64 := 2048

/-- A small capacity for producers that must not wait. -/
def lowLatencyCapacity : UInt64 := 256

/-- The settings of a ring. -/
structure Config where
  capacity : UInt64
  capacity_pos : 0 < capacity
  overflow : OverflowPolicy
  countersEnabled : Bool

namespace Config

/-- Settings for a ring of the given capacity that drops the newest record and counts nothing. -/
def ofCapacity (capacity : UInt64) : Except ConfigError Config :=
  if h : 0 < capacity then .ok ⟨capacity, h, .dropNewest, false⟩ else .error .zeroCapacity

/-- The settings of a ring that is given none. -/
def default : Config :=
  ⟨defaultCapacity, by decide, .dropNewest, false⟩

/-- Sets the overflow policy. -/
def withOverflow (c : Config) (overflow : OverflowPolicy) : Config :=
  { c with overflow := overflow }

/-- Switches the counters on or off. -/
def withCounters (c : Config) (enabled : Bool) : Config :=
  { c with countersEnabled := enabled }

/-- The least power of two that is not below a word, as a word: 2^64 is written as zero. -/
def nextPowerOfTwo (n : UInt64) : UInt64 :=
  if n ≤ 1 then 1 else (Nat.pow 2 ((n.toNat - 1).log2 + 1)).toUInt64

/-- The distance of two laps. -/
def oneLap (c : Config) : UInt64 :=
  nextPowerOfTwo (c.capacity + 1)

/-- The settings in diagnostics. -/
def debug (c : Config) : String :=
  Text.braced "RingConfig"
    [("capacity", Nat.repr c.capacity.toNat),
     ("overflow", c.overflow.name),
     ("enable_metrics", if c.countersEnabled then "true" else "false")]

end Config

end Telemetry.Ring
