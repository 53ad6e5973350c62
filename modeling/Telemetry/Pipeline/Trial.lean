import Telemetry.Batch.Trial
import Telemetry.Pipeline.Basic
import Telemetry.Simple.Alone

set_option autoImplicit false

/-! # Trying out a pipeline

A pipeline on trial has processors with scripted exporters on both sides, simple ones or batch
processors on trial. A batch processor belongs to the pipeline, which drops it at its own end, or
is shared with somebody else and outlives it. -/

namespace Telemetry

/-- A processor on one side of a pipeline. -/
inductive Pipeline.Side (α : Type) where
  | simple (s : Simple.Alone α (Script α))
  | batch (t : Batch.Trial α) (isShared : Bool)

namespace Pipeline.Side

variable {α : Type}

/-- A call on whichever processor it is. -/
def call {β : Type} (onSimple : Simple.Alone α (Script α) → β × Simple.Alone α (Script α))
    (onBatch : Batch.Trial α → β × Batch.Trial α) : Side α → β × Side α
  | .simple s =>
    let (answer, s) := onSimple s
    (answer, .simple s)
  | .batch t isShared =>
    let (answer, t) := onBatch t
    (answer, .batch t isShared)

/-- The processor. -/
def processor (α : Type) : Processor α (Side α) :=
  let P := Simple.Alone.processor (Script.exporter α)
  let Q := Batch.Trial.processor α
  { receive := fun a => call (P.receive a) (Q.receive a)
    flush := fun limit => call (P.flush limit) (Q.flush limit)
    shutdown := fun limit => call (P.shutdown limit) (Q.shutdown limit) }

/-- A simple processor that was not called yet. -/
def ofSimple (script : Script α) : Side α :=
  .simple (Simple.Alone.around script)

/-- A batch processor that has just been started. -/
def ofBatch (name : String) (config : BatchConfig) (script : Script α) (isShared : Bool) :
    Side α :=
  .batch (Batch.Trial.start name config script none).settle isShared

/-- The scripted exporter. -/
def script : Side α → Script α
  | .simple s => s.exporter
  | .batch t _ => t.exporter.inner

/-- The reports of the callers. -/
def callerEvents : Side α → List Event
  | .simple s => s.events
  | .batch t _ => t.callerEvents

/-- The reports of the worker, if there is one. -/
def workerEvents : Side α → List Event
  | .simple _ => []
  | .batch t _ => t.workerEvents

/-- The name of the thread that calls the exporter. -/
def threadName : Side α → String
  | .simple _ => "main"
  | .batch t _ => Batch.threadName t.batch.name

/-- The counters of a shared batch processor. -/
def sharedCounters : Side α → Option Counters
  | .batch t true => some t.batch.counters
  | _ => none

/-- Holds up calls of these kinds on the exporter of a batch processor. -/
def hold (kinds : List Request.Kind) : Side α → Side α
  | .simple s => .simple s
  | .batch t isShared => .batch (t.hold kinds) isShared

/-- Holds up nothing any more. -/
def releaseAll : Side α → Side α
  | .simple s => .simple s
  | .batch t isShared => .batch t.releaseAll isShared

/-- The end of the pipeline, which drops a batch processor unless it is shared. -/
def drop : Side α → Side α
  | .batch t false => .batch (t.run .drop).2 false
  | side => side

end Pipeline.Side

/-- The states of a pipeline on trial. -/
abbrev Pipeline.Trial := Pipeline.State (Pipeline.Side Span) (Pipeline.Side LogEntry)

/-- The pipeline on trial. -/
def Pipeline.onTrial : Pipeline (Pipeline.Side Span) (Pipeline.Side LogEntry) :=
  ⟨Side.processor Span, Side.processor LogEntry⟩

/-- Changes both sides. -/
def Pipeline.State.mapBoth {σ τ : Type} (f : σ → σ) (g : τ → τ) (s : Pipeline.State σ τ) :
    Pipeline.State σ τ :=
  ⟨s.spans.map f, s.logs.map g⟩

end Telemetry
