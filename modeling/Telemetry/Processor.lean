import Telemetry.Export.Basic

set_option autoImplicit false

/-! # Processors

A processor stands between the code that produces records and an exporter. It is given as a
machine with states: receiving a record never fails, though a panic of the exporter may pass
through, while flushing and shutting down have an answer and take time. -/

namespace Telemetry

/-- The answer of a processor, and the time until it came. -/
structure Processor.Answer where
  result : ProcessorResult
  took : Duration

/-- A processor of records `α` with states `σ`. -/
structure Processor (α σ : Type) where
  receive : α → σ → Except Panic Unit × σ
  flush : Duration → σ → Processor.Answer × σ
  shutdown : Duration → σ → Processor.Answer × σ

end Telemetry
