set_option autoImplicit false

/-! # Counters of a processor

Counts of what became of the records that a processor was given. Each is a 64-bit word that
wraps around. -/

namespace Telemetry

/-- Numbers of records wrap around as their counts do. -/
theorem toUInt64_add (m n : Nat) : (m + n).toUInt64 = m.toUInt64 + n.toUInt64 :=
  UInt64.ofNat_add m n

theorem toUInt64_succ (n : Nat) : (n + 1).toUInt64 = n.toUInt64 + 1 :=
  toUInt64_add n 1

/-- The counts of one processor. -/
@[ext]
structure Counters where
  /-- Records accepted into the queue and not discarded after shutdown. -/
  received : UInt64
  /-- Records lost to a full queue, evicted ones included. -/
  droppedOverflow : UInt64
  /-- Records refused because shutdown had begun, or discarded behind the final drain. -/
  droppedAfterShutdown : UInt64
  /-- Records in batches that the exporter accepted. -/
  exported : UInt64
  /-- Batches that the exporter accepted. -/
  batches : UInt64
  /-- Export calls that failed or panicked. -/
  failures : UInt64
  /-- Records in batches that failed. -/
  recordsFailed : UInt64
deriving DecidableEq

namespace Counters

/-- No counts yet. -/
def zero : Counters :=
  ⟨0, 0, 0, 0, 0, 0, 0⟩

instance : Inhabited Counters := ⟨zero⟩

/-- Records the processor has finished with, one way or another. -/
def settled (c : Counters) : UInt64 :=
  c.exported + c.recordsFailed

/-- Counts an accepted record. -/
def receive (c : Counters) : Counters :=
  { c with received := c.received + 1 }

/-- Counts a record lost to a full queue. -/
def overflow (c : Counters) : Counters :=
  { c with droppedOverflow := c.droppedOverflow + 1 }

/-- Counts `n` records refused or discarded after shutdown. -/
def dropLate (c : Counters) (n : UInt64) : Counters :=
  { c with droppedAfterShutdown := c.droppedAfterShutdown + n }

/-- Takes `n` discarded records back from those received. -/
def unreceive (c : Counters) (n : UInt64) : Counters :=
  { c with received := c.received - n }

/-- Counts the `n` records of an accepted batch. -/
def exportRecords (c : Counters) (n : UInt64) : Counters :=
  { c with exported := c.exported + n }

/-- Counts an accepted batch. -/
def exportBatch (c : Counters) : Counters :=
  { c with batches := c.batches + 1 }

/-- Counts a failed call. -/
def failCall (c : Counters) : Counters :=
  { c with failures := c.failures + 1 }

/-- Counts the `n` records of a failed batch. -/
def failRecords (c : Counters) (n : UInt64) : Counters :=
  { c with recordsFailed := c.recordsFailed + n }

end Counters

end Telemetry
