import Telemetry.Processor
import Telemetry.Record.Log

set_option autoImplicit false

/-! # Pipelines

A pipeline has at most one processor for spans and one for log entries. Records go to the
processor of their kind; without one they are dropped. Flushing and shutting down reach both
processors, the spans' one first, under one limit for both: the second one has what the first one
left of it. The second one is reached even if the first one failed, and the first failure is the
answer. -/

namespace Telemetry

/-- The processors of a pipeline. -/
structure Pipeline (σ τ : Type) where
  spanProcessor : Processor Span σ
  logProcessor : Processor LogEntry τ

/-- The states of the processors that are there. -/
structure Pipeline.State (σ τ : Type) where
  spans : Option σ
  logs : Option τ

namespace Pipeline

variable {α σ τ : Type}

/-- Hands a record to a processor, if it is there. -/
def handTo (P : Processor α σ) (a : α) : Option σ → Except Panic Unit × Option σ
  | none => (.ok (), none)
  | some s =>
    let (r, s) := P.receive a s
    (r, some s)

/-- Asks a processor, if it is there; nothing succeeds at once. Looking at the clock takes no time,
so without a processor none passes, and the whole limit is left. -/
def ask (call : σ → Processor.Answer × σ) : Option σ → Processor.Answer × Option σ
  | none => (⟨.ok (), Duration.zero⟩, none)
  | some s =>
    let (answer, s) := call s
    (answer, some s)

/-- The first failure of two answers. -/
def firstFailure (first second : ProcessorResult) : ProcessorResult :=
  match first with
  | .ok () => second
  | .error e => .error e

/-- Receives a span. -/
def recordSpan (p : Pipeline σ τ) (span : Span) (s : State σ τ) :
    Except Panic Unit × State σ τ :=
  let (r, spans) := handTo p.spanProcessor span s.spans
  (r, { s with spans := spans })

/-- Receives a log entry. -/
def emitLog (p : Pipeline σ τ) (entry : LogEntry) (s : State σ τ) :
    Except Panic Unit × State σ τ :=
  let (r, logs) := handTo p.logProcessor entry s.logs
  (r, { s with logs := logs })

/-- Asks both processors under one limit. -/
def askBoth (onSpans : Duration → σ → Processor.Answer × σ)
    (onLogs : Duration → τ → Processor.Answer × τ) (limit : Duration) (s : State σ τ) :
    ProcessorResult × State σ τ :=
  let (first, spans) := ask (onSpans limit) s.spans
  let (second, logs) := ask (onLogs (limit.saturatingSub first.took)) s.logs
  (firstFailure first.result second.result, ⟨spans, logs⟩)

/-- Flushes both processors. -/
def flush (p : Pipeline σ τ) (limit : Duration) (s : State σ τ) :
    ProcessorResult × State σ τ :=
  askBoth p.spanProcessor.flush p.logProcessor.flush limit s

/-- Shuts both processors down. -/
def shutdown (p : Pipeline σ τ) (limit : Duration) (s : State σ τ) :
    ProcessorResult × State σ τ :=
  askBoth p.spanProcessor.shutdown p.logProcessor.shutdown limit s

/-- The report of a shutdown, which comes before any of the processors'. -/
def shutdownEvent (limit : Duration) : Event where
  level := .debug
  message := "shutting down telemetry pipeline"
  fields := [("timeout_ms", .number limit.millis.toNat)]

end Pipeline

end Telemetry
