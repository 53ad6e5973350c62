import Telemetry.Error
import Telemetry.Event

set_option autoImplicit false

/-! # Exporters

An exporter takes batches of records out of the process. It is a machine with a state: every
request brings it into a new state and ends with an answer or with a panic. Whoever calls it for
a processor turns a panic into an error, so that one bad exporter does not take its caller down. -/

namespace Telemetry

/-! ## How a call ends -/

/-- What a panic carries. -/
inductive Panic where
  | text (message : String)
  /-- Something that is not a text. -/
  | other
deriving DecidableEq

/-- The text of a panic as an error reports it. -/
def Panic.message : Panic → String
  | .text message => message
  | .other => "unknown panic payload"

/-- How a call ended. -/
inductive Outcome where
  | returned (r : ExportResult)
  | panicked (p : Panic)

/-- The answer of a call whose panics are caught. -/
def Outcome.guarded : Outcome → ExportResult
  | .returned r => r
  | .panicked p => .error (.panicked p.message)

/-! ## Requests -/

/-- What an exporter can be asked to do. -/
inductive Request (α : Type) where
  /-- Take over a batch. -/
  | send (batch : List α)
  /-- Pass on what it holds back, within a time. -/
  | flush (limit : Duration)
  /-- Let go of what it uses, within a time. -/
  | close (limit : Duration)
deriving DecidableEq

/-- The kinds of requests. -/
inductive Request.Kind where
  | send
  | flush
  | close
deriving DecidableEq

/-- The kind of a request. -/
def Request.kind {α : Type} : Request α → Request.Kind
  | .send _ => .send
  | .flush _ => .flush
  | .close _ => .close

/-! ## Exporters -/

/-- A call on an exporter with states `σ`: how it ended, what was reported on the way, and the
state it left. -/
structure Call (σ : Type) where
  outcome : Outcome
  events : List Event
  state : σ

/-- A call that returns and reports nothing. -/
def Call.answer {σ : Type} (r : ExportResult) (state : σ) : Call σ :=
  ⟨.returned r, [], state⟩

/-- An exporter of records `α` with states `σ`. -/
structure Exporter (α σ : Type) where
  call : Request α → σ → Call σ
  /-- Asks for the exporter's name, which may panic. -/
  name : σ → Except Panic String × σ
  /-- Lets time pass on the exporter's thread. -/
  elapse : Duration → σ → σ

/-- An exporter whose name is fixed and that does not watch the time. -/
def Exporter.plain {α σ : Type} (name : String) (call : Request α → σ → Call σ) :
    Exporter α σ where
  call := call
  name := fun s => (.ok name, s)
  elapse := fun _ s => s

/-- The exporter that throws every record away. -/
def Exporter.discard (α : Type) : Exporter α Unit :=
  .plain "null" fun _ s => .answer (.ok ()) s

end Telemetry
