import Telemetry.Ring.Config

set_option autoImplicit false

/-! # Rings

A ring is a fixed array of slots with a head position, from which records are taken, and a tail
position, at which they are stored. Every slot carries a stamp that says what the slot is ready
for:

* its stamp equals a position `p` that maps to it: empty, ready for the record stored at `p`;
* its stamp equals `p + 1`: full, ready for the taker at `p`.

Positions are 64-bit words and wrap around. Since a lap is a power of two above the capacity, the
slot of a position never collides with the start of a lap, and wrapping is harmless. -/

namespace Telemetry

/-- A place for one record. -/
structure Ring.Slot (α : Type) where
  stamp : UInt64
  value : Option α

/-- Counts of what happened to the records of a ring. -/
@[ext]
structure Ring.Counters where
  /-- Records stored. -/
  pushed : UInt64
  /-- Records taken by consumers, eviction excluded. -/
  popped : UInt64
  /-- Attempts to store a record that found the ring full. -/
  rejected : UInt64
  /-- Records taken to make room for newer ones. -/
  evicted : UInt64
deriving DecidableEq

/-- A bounded queue of records in a fixed array. -/
structure Ring (α : Type) where
  config : Ring.Config
  /-- The position to take from next. -/
  head : UInt64
  /-- The position to store at next. -/
  tail : UInt64
  slots : Array (Ring.Slot α)
  counters : Ring.Counters

namespace Ring

variable {α : Type}

/-- No counts yet. -/
def Counters.zero : Counters :=
  ⟨0, 0, 0, 0⟩

/-- The counts in diagnostics. -/
def Counters.debug (c : Counters) : String :=
  Text.braced "MetricsSnapshot"
    [("pushed", Nat.repr c.pushed.toNat),
     ("popped", Nat.repr c.popped.toNat),
     ("rejected", Nat.repr c.rejected.toNat),
     ("evicted", Nat.repr c.evicted.toNat)]

/-- An empty ring. Slot number `i` is ready for the record stored at position `i`. -/
def new (config : Config) : Ring α where
  config := config
  head := 0
  tail := 0
  slots := (Array.range config.capacity.toNat).map fun i => ⟨i.toUInt64, none⟩
  counters := Counters.zero

/-- An empty ring of the given capacity that drops the newest record. -/
def withCapacity (capacity : UInt64) : Except ConfigError (Ring α) := do
  return new (← Config.ofCapacity capacity)

/-! ## Positions -/

/-- The slot of a position: its low bits. -/
def index (r : Ring α) (position : UInt64) : UInt64 :=
  position &&& (r.config.oneLap - 1)

/-- The start of a position's lap: its high bits. -/
def lap (r : Ring α) (position : UInt64) : UInt64 :=
  position &&& ~~~(r.config.oneLap - 1)

/-- The position after a position: the next slot, or the first slot of the next lap. -/
def next (r : Ring α) (position : UInt64) : UInt64 :=
  if r.index position + 1 < r.config.capacity then position + 1
  else r.lap position + r.config.oneLap

/-- The stamp of a position's slot. -/
def stampAt (r : Ring α) (position : UInt64) : UInt64 :=
  match r.slots[(r.index position).toNat]? with
  | some slot => slot.stamp
  | none => 0

/-- The record in a position's slot. -/
def valueAt (r : Ring α) (position : UInt64) : Option α :=
  match r.slots[(r.index position).toNat]? with
  | some slot => slot.value
  | none => none

/-- Writes the stamp of a position's slot. -/
def setStamp (r : Ring α) (position stamp : UInt64) : Ring α :=
  { r with slots := r.slots.modify (r.index position).toNat fun s => { s with stamp := stamp } }

/-- Writes or clears the record in a position's slot. -/
def setValue (r : Ring α) (position : UInt64) (value : Option α) : Ring α :=
  { r with slots := r.slots.modify (r.index position).toNat fun s => { s with value := value } }

/-! ## Status -/

/-- The number of positions from a head to a tail that were read together. -/
def distance (r : Ring α) (head tail : UInt64) : UInt64 :=
  let hix := r.index head
  let tix := r.index tail
  if hix < tix then tix - hix
  else if tix < hix then r.config.capacity - hix + tix
  else if tail = head then 0
  else r.config.capacity

/-- The number of records. -/
def length (r : Ring α) : UInt64 :=
  r.distance r.head r.tail

/-- Whether there is no record. -/
def isEmpty (r : Ring α) : Bool :=
  r.tail == r.head

/-- Whether a tail is one lap ahead of a head, so that all slots are taken. -/
def lapAhead (r : Ring α) (head tail : UInt64) : Bool :=
  head + r.config.oneLap == tail

/-- Whether there is no room for another record. -/
def isFull (r : Ring α) : Bool :=
  r.lapAhead r.head r.tail

/-- The number of records that the slots hold. -/
def live (r : Ring α) : Nat :=
  (r.slots.toList.filter fun s => s.value.isSome).length

/-- The counts, all zero unless counting is switched on. -/
def snapshot (r : Ring α) : Counters :=
  if r.config.countersEnabled then r.counters else Counters.zero

/-- Changes the counts, if counting is switched on. -/
def count (r : Ring α) (f : Counters → Counters) : Ring α :=
  if r.config.countersEnabled then { r with counters := f r.counters } else r

/-- The ring in diagnostics. -/
def debug (r : Ring α) : String :=
  Text.braced "Ring"
    [("capacity", Nat.repr r.config.capacity.toNat),
     ("len", Nat.repr r.length.toNat),
     ("overflow", r.config.overflow.name)]

end Ring

end Telemetry
