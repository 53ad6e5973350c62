import Telemetry.Export.Backoff
import Telemetry.Export.Basic

set_option autoImplicit false

/-! # Trying again

An exporter around another one: a batch that fails is sent again after a pause, until it is
accepted, the inner exporter is shut down or the attempts are used up. Flushing and closing go
straight through. Every failed attempt is reported under the inner exporter's name. A panic of
the inner exporter passes through at once. -/

namespace Telemetry

/-- The inner exporter's state with the counts of a retrying exporter. -/
structure Retrying (σ : Type) where
  inner : σ
  totalRetries : UInt64
  /-- Batches that were accepted at a retry. -/
  recovered : UInt64

namespace Retrying

variable {α σ : Type}

/-- Around an inner state, with no counts yet. -/
def around (inner : σ) : Retrying σ :=
  ⟨inner, 0, 0⟩

/-- Gets ready for an attempt, counted from zero: before a retry it is counted and the pause is
slept off. -/
def prepare (c : RetryConfig) (E : Exporter α σ) (retry : Nat) (s : Retrying σ) : Retrying σ :=
  if retry = 0 then s
  else { s with inner := E.elapse (c.backoff retry) s.inner, totalRetries := s.totalRetries + 1 }

/-- The report of a failed attempt. -/
def failureEvent (name : String) (retry : Nat) (e : ExportError) : Event where
  level := .debug
  message := "export attempt failed"
  fields := [("exporter", .text name), ("retry", .number retry), ("error", .text e.message)]

/-- Takes note of an attempt's answer: a late success is counted, a failure reported. The name
that the report needs may panic. -/
def conclude (E : Exporter α σ) (retry : Nat) (r : ExportResult) (s : Retrying σ) :
    Except Panic (List Event) × Retrying σ :=
  match r with
  | .ok () => (.ok [], if retry = 0 then s else { s with recovered := s.recovered + 1 })
  | .error e =>
    match E.name s.inner with
    | (.ok name, inner) => (.ok [failureEvent name retry e], { s with inner := inner })
    | (.error p, inner) => (.error p, { s with inner := inner })

/-- One attempt. -/
def attempt (c : RetryConfig) (E : Exporter α σ) (retry : Nat) (batch : List α)
    (s : Retrying σ) : Call (Retrying σ) :=
  let s := s.prepare c E retry
  let inner := E.call (.send batch) s.inner
  let s := { s with inner := inner.state }
  match inner.outcome with
  | .panicked p => ⟨.panicked p, inner.events, s⟩
  | .returned r =>
    match conclude E retry r s with
    | (.ok events, s) => ⟨.returned r, inner.events ++ events, s⟩
    | (.error p, s) => ⟨.panicked p, inner.events, s⟩

/-- Whether an answer ends the attempts before they are used up. -/
def isFinal : ExportResult → Bool
  | .ok () => true
  | .error e => e == .shutdown

/-- The answer when all attempts failed. -/
def exhausted (c : RetryConfig) : ExportResult :=
  .error (.retriesExhausted (c.maxRetries + 1))

/-- Attempt number `retry` and at most `left` attempts after it. -/
def attempts (c : RetryConfig) (E : Exporter α σ) (batch : List α) :
    Nat → Nat → Retrying σ → Call (Retrying σ)
  | left, retry, s =>
    let a := s.attempt c E retry batch
    match a.outcome with
    | .panicked _ => a
    | .returned r =>
      if isFinal r then a
      else
        match left with
        | 0 => { a with outcome := .returned (exhausted c) }
        | left + 1 =>
          let rest := attempts c E batch left (retry + 1) a.state
          { rest with events := a.events ++ rest.events }

/-- Answers a request. -/
def call (c : RetryConfig) (E : Exporter α σ) (request : Request α) (s : Retrying σ) :
    Call (Retrying σ) :=
  match request with
  | .send batch => attempts c E batch c.maxRetries.toNat 0 s
  | request =>
    let inner := E.call request s.inner
    { inner with state := { s with inner := inner.state } }

/-- The exporter, under the inner exporter's name. -/
def exporter (c : RetryConfig) (E : Exporter α σ) : Exporter α (Retrying σ) where
  call := call c E
  name := fun s =>
    let (name, inner) := E.name s.inner
    (name, { s with inner := inner })
  elapse := fun d s => { s with inner := E.elapse d s.inner }

end Retrying

end Telemetry
