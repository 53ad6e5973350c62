import Telemetry.Counters
import Telemetry.Export.Basic

set_option autoImplicit false

/-! # Simple processors

A simple processor has no queue and no worker: the thread that calls it calls the exporter, one
record at a time, and a lock keeps the threads apart. Shutting down sets a flag first and takes
the lock then; the exporter is shut down by the first thread that gets that far, and the others
have its answer.

A state of the whole is what the threads share and the place of each thread in its call. Reading
or writing the flag, counting and taking the lock are steps of their own. The exporter's answers
and its name come in from outside, and the lock is let go in the step that ends with them. -/

namespace Telemetry

/-- How a call on a simple processor returned. -/
inductive Simple.Return where
  | received
  | answered (r : ProcessorResult)
  /-- A panic passed through. -/
  | panicked (p : Panic)

/-- Where a thread is in a call on a simple processor. -/
inductive Simple.Caller (α : Type) where
  /-- Receiving: about to see whether shutdown was requested. -/
  | receiving (a : α)
  /-- Receiving: too late, about to count the record as refused. -/
  | refusing
  /-- Receiving: about to count the record. -/
  | counting (a : α)
  /-- Flushing: about to see whether shutdown was requested. -/
  | flushing (limit : Duration)
  /-- Shutting down: about to set the flag. -/
  | closing (limit : Duration)
  /-- About to take the lock for a request to the exporter. -/
  | locking (request : Request α)
  /-- The exporter works on a request. -/
  | calling (request : Request α)
  /-- Receiving: asks for the exporter's name, to report a failure. -/
  | naming (e : ExportError)
  /-- The call has returned. -/
  | done (r : Return)

/-- A simple processor with the calls on it, numbered from zero. -/
structure Simple (α : Type) where
  isShutdown : Bool
  /-- The caller that has the lock. -/
  holder : Option Nat
  /-- The exporter's answer to its shutdown. -/
  shutdownResult : Option ProcessorResult
  counters : Counters
  callers : List (Simple.Caller α)

/-- What a step shows to the outside. -/
inductive Simple.Note (α : Type) where
  /-- A report. -/
  | event (e : Event)
  /-- A call on the exporter begins. -/
  | calls (request : Request α)
  /-- The call on the exporter has ended. -/
  | ended (o : Outcome)

namespace Simple

variable {α : Type}

/-- A processor that was not called yet. -/
def start : Simple α :=
  ⟨false, none, none, Counters.zero, []⟩

/-- Changes the counters. -/
def count (s : Simple α) (f : Counters → Counters) : Simple α :=
  { s with counters := f s.counters }

/-- Lets go of the lock. -/
def unlock (s : Simple α) : Simple α :=
  { s with holder := none }

/-- What a simple processor can be asked to do. -/
inductive Operation (α : Type) where
  | receive (a : α)
  | flush (limit : Duration)
  | shutdown (limit : Duration)

/-- The first place of a call. -/
def Operation.place : Operation α → Caller α
  | .receive a => .receiving a
  | .flush limit => .flushing limit
  | .shutdown limit => .closing limit

/-- The report of a lost record. -/
def failureEvent (exporter : String) (e : ExportError) : Event where
  level := .warn
  message := "export failed; dropping record"
  fields := [("exporter", .text exporter), ("error", .text e.message)]

/-! ## Steps -/

/-- What a step of a thread leaves: the state, the thread's next place and what is shown. -/
structure Move (α : Type) where
  state : Simple α
  place : Caller α
  notes : List (Note α)

/-- A thread takes the free lock for a request. A request to shut down that comes second has the
answer of the first one. -/
def lock (s : Simple α) (i : Nat) (request : Request α) : Move α :=
  match request, s.shutdownResult with
  | .close _, some result => ⟨s, .done (.answered result), []⟩
  | request, _ => ⟨{ s with holder := some i }, .calling request, [.calls request]⟩

/-- One step of caller number `i`; `none` if it waits for the lock or the exporter, or has
returned. -/
def Caller.step (s : Simple α) (i : Nat) : Caller α → Option (Move α)
  | .receiving a => some ⟨s, if s.isShutdown then .refusing else .counting a, []⟩
  | .refusing => some ⟨s.count fun c => c.dropLate 1, .done .received, []⟩
  | .counting a => some ⟨s.count Counters.receive, .locking (.send [a]), []⟩
  | .flushing limit =>
    some ⟨s, if s.isShutdown then .done (.answered (.error .alreadyShutdown))
      else .locking (.flush limit), []⟩
  | .closing limit => some ⟨{ s with isShutdown := true }, .locking (.close limit), []⟩
  | .locking request =>
    match s.holder with
    | some _ => none
    | none => some (s.lock i request)
  | .calling _ | .naming _ | .done _ => none

/-- The end of a caller's call on the exporter; `none` if there is none. A panic counts as a
failure. -/
def Caller.ended (s : Simple α) (o : Outcome) : Caller α → Option (Move α)
  | .calling (.send _) =>
    match o.guarded with
    | .ok () =>
      some ⟨(s.count fun c => (c.exportRecords 1).exportBatch).unlock, .done .received,
        [.ended o]⟩
    | .error e =>
      some ⟨s.count fun c => c.failCall.failRecords 1, .naming e, [.ended o]⟩
  | .calling (.flush _) =>
    some ⟨s.unlock, .done (.answered o.guarded.toProcessor), [.ended o]⟩
  | .calling (.close _) =>
    let result := o.guarded.toProcessor
    some ⟨{ s with shutdownResult := some result }.unlock, .done (.answered result), [.ended o]⟩
  | _ => none

/-- The exporter's answer when a caller asks for its name; `none` if it does not. A panic passes
through and lets go of the lock as well. -/
def Caller.named (s : Simple α) (name : Except Panic String) : Caller α → Option (Move α)
  | .naming e =>
    match name with
    | .ok name => some ⟨s.unlock, .done .received, [.event (failureEvent name e)]⟩
    | .error p => some ⟨s.unlock, .done (.panicked p), []⟩
  | _ => none

/-! ## Runs -/

/-- What happens next. -/
inductive Label (α : Type) where
  /-- A new thread begins a call. -/
  | begins (op : Operation α)
  /-- Caller number `i` takes a step. -/
  | caller (i : Nat)
  /-- The call of caller number `i` on the exporter ends. -/
  | ended (i : Nat) (o : Outcome)
  /-- Caller number `i` asks for the exporter's name. -/
  | named (i : Nat) (name : Except Panic String)

/-- The state behind a caller's step. -/
def moveCaller (i : Nat) (m : Move α) : Simple α × List (Note α) :=
  ({ m.state with callers := m.state.callers.set i m.place }, m.notes)

/-- One step; `none` if what the label says cannot happen. -/
def step (s : Simple α) : Label α → Option (Simple α × List (Note α))
  | .begins op => some ({ s with callers := s.callers ++ [op.place] }, [])
  | .caller i => do
    let place ← s.callers[i]?
    return moveCaller i (← place.step s i)
  | .ended i o => do
    let place ← s.callers[i]?
    return moveCaller i (← place.ended s o)
  | .named i name => do
    let place ← s.callers[i]?
    return moveCaller i (← place.named s name)

/-- A run: from one state to another by steps with these labels, showing these notes. -/
inductive Run : Simple α → List (Label α) → List (Note α) → Simple α → Prop where
  | nil (s : Simple α) : Run s [] [] s
  | snoc {s t u : Simple α} {labels : List (Label α)} {notes new : List (Note α)}
      {label : Label α} :
      Run s labels notes t → t.step label = some (u, new) →
      Run s (labels ++ [label]) (notes ++ new) u

end Simple

end Telemetry
