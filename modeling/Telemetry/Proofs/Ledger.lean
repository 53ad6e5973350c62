import Telemetry.Proofs.Batch.Calls
import Telemetry.Simple.Basic

set_option autoImplicit false

/-! # What a processor owes to its callers

A ledger says what comes of a sequence of calls when the exporter never fails and no call runs out
of time: which records reach the exporter, how often it is flushed, whether it is shut down, and
what the calls answer. It knows nothing of queues, workers and locks, so that both processors can
be held against it. -/

namespace Telemetry

variable {α : Type}

/-- What has come of the calls so far. -/
structure Ledger (α : Type) where
  /-- The records for the exporter, in order. -/
  records : List α
  /-- How many records came too late. -/
  refused : Nat
  /-- How often the exporter is flushed. -/
  flushes : Nat
  /-- Whether the processor was shut down. -/
  closed : Bool

namespace Ledger

/-- No calls yet. -/
def blank : Ledger α :=
  ⟨[], 0, 0, false⟩

/-- What comes of a call. -/
def enter (l : Ledger α) : Batch.Operation α → Ledger α
  | .receive a =>
    if l.closed then { l with refused := l.refused + 1 }
    else { l with records := l.records ++ [a] }
  | .flush _ => if l.closed then l else { l with flushes := l.flushes + 1 }
  | .shutdown _ | .drop => { l with closed := true }

/-- The answer of a call; `none` if it has none. -/
def answer (l : Ledger α) : Batch.Operation α → Option ProcessorResult
  | .receive _ | .drop => none
  | .flush _ => some (if l.closed then .error .alreadyShutdown else .ok ())
  | .shutdown _ => some (.ok ())

/-- What comes of a sequence of calls. -/
def of (ops : List (Batch.Operation α)) : Ledger α :=
  ops.foldl enter blank

@[simp] theorem of_append_singleton (ops : List (Batch.Operation α)) (op : Batch.Operation α) :
    of (ops ++ [op]) = (of ops).enter op := by
  simp [of]

/-- The last call and those before it. -/
theorem take_append_last {β : Type} {ops : List β} {i : Nat} {op : β} (hop : ops[i]? = some op)
    (last : ops.length ≤ i + 1) : ops = ops.take i ++ [op] := by
  obtain ⟨lt, rfl⟩ := List.getElem?_eq_some_iff.1 hop
  rw [List.take_append_getElem, List.take_of_length_le last]

/-- Whether a call shuts the processor down. -/
def shuts : Batch.Operation α → Bool
  | .shutdown _ | .drop => true
  | _ => false

theorem closed_enter (l : Ledger α) (op : Batch.Operation α) :
    (l.enter op).closed = (l.closed || shuts op) := by
  cases op <;> cases closed : l.closed <;> simp [enter, shuts, closed]

/-- Every record is kept or refused. -/
theorem length_records_add_refused (ops : List (Batch.Operation α)) :
    (of ops).records.length + (of ops).refused = ops.countP Batch.Operation.isReceive := by
  induction ops using List.reverseRecOn with
  | nil => rfl
  | append_singleton ops op ih =>
      rw [of_append_singleton, List.countP_append, ← ih]
      cases op with
      | receive a =>
          cases closed : (of ops).closed <;>
            simp [enter, closed, Batch.Operation.isReceive] <;> omega
      | flush limit =>
          cases closed : (of ops).closed <;> simp [enter, closed, Batch.Operation.isReceive]
      | shutdown limit | drop => simp [enter, Batch.Operation.isReceive]

end Ledger

/-- A request to a simple processor, as one to a batch processor. -/
def Simple.Operation.onBatch : Simple.Operation α → Batch.Operation α
  | .receive a => .receive a
  | .flush limit => .flush limit
  | .shutdown limit => .shutdown limit

/-! ## What an exporter was asked for -/

/-- The number of requests of a kind. -/
def tally (kind : Request.Kind) (requests : List (Request α)) : Nat :=
  requests.countP fun request => request.kind = kind

@[simp] theorem tally_append (kind : Request.Kind) (requests new : List (Request α)) :
    tally kind (requests ++ new) = tally kind requests + tally kind new :=
  List.countP_append

/-- The records of all batches, in order. -/
def delivered (requests : List (Request α)) : List α :=
  (Batch.batches requests).flatten

@[simp] theorem delivered_append (requests new : List (Request α)) :
    delivered (requests ++ new) = delivered requests ++ delivered new := by
  rw [delivered, Batch.batches_append, List.flatten_append]
  rfl

/-- What an exporter was asked for and what the counters say is what the ledger says. -/
structure Ledger.Shows (l : Ledger α) (requests : List (Request α)) (counters : Counters) :
    Prop where
  records : delivered requests = l.records
  flushes : tally .flush requests = l.flushes
  closes : tally .close requests = l.closed.toNat
  received : counters.received = l.records.length.toUInt64
  exported : counters.exported = l.records.length.toUInt64
  recordsFailed : counters.recordsFailed = 0
  refused : counters.droppedAfterShutdown = l.refused.toUInt64

end Telemetry
