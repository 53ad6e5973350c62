import Telemetry.Batch.Worker

set_option autoImplicit false

/-! # Runs of a batch processor

A step of the whole is a step of one thread, the beginning of a call, the end of a call on the
exporter or the exporter's name. The label says which, and carries what is not up to the
processor: whether a deadline has passed, how the exporter behaved, and which thread goes next. A
run is any sequence of steps. -/

namespace Telemetry.Batch

variable {α : Type}

/-- What happens next. -/
inductive Label (α : Type) where
  /-- A new thread begins a call. -/
  | begins (op : Operation α)
  /-- Caller number `i` takes a step; `expired` says whether its time is up. -/
  | caller (i : Nat) (expired : Bool)
  /-- The worker takes a step; `expired` says whether its timer has run out. -/
  | worker (expired : Bool)
  /-- The call on the exporter ends. -/
  | ended (o : Outcome)
  /-- The exporter is asked for its name. -/
  | named (name : Except Panic String)

/-- The state behind a caller's step. -/
def moveCaller (i : Nat) (m : Move α (Caller α)) : Batch α × List (Note α) :=
  ({ m.state with callers := m.state.callers.set i m.place }, m.notes)

/-- The state behind a worker's step. -/
def moveWorker (m : Move α (Worker α)) : Batch α × List (Note α) :=
  ({ m.state with worker := m.place }, m.notes)

/-- One step; `none` if what the label says cannot happen. -/
def step (s : Batch α) : Label α → Option (Batch α × List (Note α))
  | .begins op => some ({ s with callers := s.callers ++ [op.place] }, [])
  | .caller i expired => do
    let place ← s.callers[i]?
    return moveCaller i (← place.step s expired)
  | .worker expired => (s.worker.step s expired).map moveWorker
  | .ended o => (s.worker.ended o).map fun w => ({ s with worker := w }, [.ended o])
  | .named name => (s.worker.named s name).map moveWorker

/-- A run: from one state to another by steps with these labels, showing these notes. -/
inductive Run : Batch α → List (Label α) → List (Note α) → Batch α → Prop where
  | nil (s : Batch α) : Run s [] [] s
  | snoc {s t u : Batch α} {labels : List (Label α)} {notes new : List (Note α)}
      {label : Label α} :
      Run s labels notes t → t.step label = some (u, new) →
      Run s (labels ++ [label]) (notes ++ new) u

end Telemetry.Batch
