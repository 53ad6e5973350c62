import Telemetry.Export.Basic

set_option autoImplicit false

/-! # Keeping records in memory

The exporter for tests: it keeps what it is given and counts its calls. Once it was closed it
refuses batches, but flushing and closing it again still succeed. -/

namespace Telemetry

/-- What an exporter in memory holds. -/
structure Memory (α : Type) where
  /-- The records, in the order of the batches. -/
  records : List α
  batchSizes : List Nat
  flushCalls : Nat
  closeCalls : Nat
  isClosed : Bool

namespace Memory

variable {α : Type}

/-- Nothing yet. -/
def empty : Memory α :=
  ⟨[], [], 0, 0, false⟩

/-- Answers a request. -/
def call (request : Request α) (m : Memory α) : Call (Memory α) :=
  match request with
  | .send batch =>
    if m.isClosed then .answer (.error .shutdown) m
    else
      .answer (.ok ()) { m with
        records := m.records ++ batch
        batchSizes := m.batchSizes ++ [batch.length] }
  | .flush _ => .answer (.ok ()) { m with flushCalls := m.flushCalls + 1 }
  | .close _ => .answer (.ok ()) { m with closeCalls := m.closeCalls + 1, isClosed := true }

/-- Hands out the records and forgets them; what was counted stays. -/
def takeRecords (m : Memory α) : List α × Memory α :=
  (m.records, { m with records := [] })

/-- The exporter. -/
def exporter (α : Type) : Exporter α (Memory α) :=
  .plain "in_memory" call

end Memory

end Telemetry
