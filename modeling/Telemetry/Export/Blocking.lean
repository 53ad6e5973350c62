import Telemetry.Export.Basic

set_option autoImplicit false

/-! # Waiting for an asynchronous exporter

An asynchronous exporter starts work and finishes it later, or never. The exporter around it
waits, but no longer than its limit: work that takes longer is cut off and the call times out.
It is closed once: later batches are refused, and closing again succeeds without another call. -/

namespace Telemetry

/-! ## Asynchronous exporters -/

/-- Work under way: the state once it was started, and, unless it never ends, the time until it
ends and how it does. -/
structure Task (σ : Type) where
  started : σ
  ending : Option (Duration × Call σ)

/-- Waits for work up to a limit. -/
def Task.within {σ : Type} (t : Task σ) (limit : Duration) : Call σ :=
  match t.ending with
  | some (wait, call) => if wait ≤ limit then call else .answer (.error .timeout) t.started
  | none => .answer (.error .timeout) t.started

/-- An asynchronous exporter. -/
structure AsyncExporter (α σ : Type) where
  send : List α → σ → Task σ
  close : σ → Task σ
  /-- The exporter's name. Asking for it does not panic, unlike asking an `Exporter`: asynchronous
  exporters with a name that panics are left out. -/
  name : σ → String

/-- Closing that has nothing to do. -/
def AsyncExporter.closeAtOnce {σ : Type} (s : σ) : Task σ :=
  ⟨s, some (Duration.zero, .answer (.ok ()) s)⟩

/-! ## Waiting -/

/-- The inner exporter's state, and whether it was closed. -/
structure Blocking (σ : Type) where
  inner : σ
  isClosed : Bool

namespace Blocking

variable {α σ : Type}

/-- How long a batch may take where nothing else is said. -/
def defaultLimit : Duration :=
  Duration.ofSecs 30

/-- Around an inner state that was not closed. -/
def around (inner : σ) : Blocking σ :=
  ⟨inner, false⟩

/-- Waits for work of the inner exporter. -/
def await (t : Task σ) (limit : Duration) (isClosed : Bool) : Call (Blocking σ) :=
  let c := t.within limit
  { c with state := ⟨c.state, isClosed⟩ }

/-- Answers a request. Batches have a limit of their own; closing has the caller's limit. -/
def call (limit : Duration) (A : AsyncExporter α σ) (request : Request α) (b : Blocking σ) :
    Call (Blocking σ) :=
  match request with
  | .send batch =>
    if b.isClosed then .answer (.error .shutdown) b else await (A.send batch b.inner) limit false
  | .flush _ => .answer (.ok ()) b
  | .close limit =>
    if b.isClosed then .answer (.ok ()) b else await (A.close b.inner) limit true

/-- The exporter, under the inner exporter's name. -/
def exporter (limit : Duration) (A : AsyncExporter α σ) : Exporter α (Blocking σ) where
  call := call limit A
  name := fun b => (.ok (A.name b.inner), b)
  elapse := fun _ b => b

end Blocking

/-! ## A scripted asynchronous exporter -/

/-- A line in the log of a scripted asynchronous exporter. -/
inductive AsyncScript.Entry (α : Type) where
  | begins (batch : List α)
  | ends (r : ExportResult)
  | closes

/-- A scripted asynchronous exporter: for each kind of call the outcomes, which are used up in
order, with the time each takes; `none` never ends. A call without one succeeds at once. -/
structure AsyncScript (α : Type) where
  sends : List (Option (Duration × Outcome))
  closes : List (Option (Duration × Outcome))
  log : List (AsyncScript.Entry α)

namespace AsyncScript

variable {α : Type}

/-- The next outcome. -/
def nextOutcome (outcomes : List (Option (Duration × Outcome))) : Option (Duration × Outcome) :=
  outcomes.headD (some (Duration.zero, .returned (.ok ())))

/-- Adds a line to the log. -/
def note (s : AsyncScript α) (entry : Entry α) : AsyncScript α :=
  { s with log := s.log ++ [entry] }

/-- Starts a batch. -/
def send (batch : List α) (s : AsyncScript α) : Task (AsyncScript α) :=
  let started := { s with sends := s.sends.tail }.note (.begins batch)
  ⟨started, (nextOutcome s.sends).map fun o =>
    match o.2 with
    | .returned r => (o.1, .answer r (started.note (.ends r)))
    | .panicked p => (o.1, ⟨.panicked p, [], started⟩)⟩

/-- Starts closing. -/
def close (s : AsyncScript α) : Task (AsyncScript α) :=
  let started := { s with closes := s.closes.tail }.note .closes
  ⟨started, (nextOutcome s.closes).map fun o => (o.1, ⟨o.2, [], started⟩)⟩

/-- The exporter that follows the script for all calls. -/
def exporter (α : Type) : AsyncExporter α (AsyncScript α) :=
  ⟨send, close, fun _ => "async_scripted"⟩

/-- The exporter that follows the script for batches and has nothing to do for closing. -/
def closingAtOnce (α : Type) : AsyncExporter α (AsyncScript α) :=
  ⟨send, AsyncExporter.closeAtOnce, fun _ => "async_default"⟩

end AsyncScript

end Telemetry
