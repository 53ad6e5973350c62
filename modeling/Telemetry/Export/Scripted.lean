import Telemetry.Export.Memory

set_option autoImplicit false

/-! # An exporter that follows a script

For trying out whatever calls an exporter. Each kind of request has a list of outcomes, which
are used up in order; a call without one succeeds. A call that is to succeed goes to an exporter
in memory, the others do not reach it. A log keeps what was called and how it ended, with the
time that passed since the last batch. A call has two halves, so that it can be held up between
them. -/

namespace Telemetry

/-- A line in the log of a scripted exporter. -/
inductive Script.Entry (α : Type) where
  /-- A call, and for a batch the time that passed since the one before. -/
  | called (request : Request α) (slept : Duration)
  /-- The call panics. -/
  | panics
  | returns (r : ExportResult)

/-- A scripted exporter. -/
structure Script (α : Type) where
  exporterName : String
  /-- The number of the request for the name that panics. -/
  namePanicsAt : Option Nat
  /-- How often the name was asked for. -/
  nameCalls : Nat
  sends : List Outcome
  flushes : List Outcome
  closes : List Outcome
  memory : Memory α
  /-- The time that passed since the last batch. -/
  slept : Duration
  log : List (Script.Entry α)

namespace Script

variable {α : Type}

/-! ## Outcomes as texts -/

/-- A text as the part before its first colon and the part behind it. -/
def splitText (text : String) : String × String :=
  let cs := text.toList
  (String.ofList (cs.takeWhile (· != ':')), String.ofList ((cs.dropWhile (· != ':')).drop 1))

/-- The error that a script asks for, such as `timeout` or `transport:connection lost`. -/
def errorOf? (text : String) : Option ExportError :=
  let (kind, rest) := splitText text
  match kind with
  | "transport" => some (.transport rest)
  | "serialization" => some (.serialization rest)
  | "retries" => some (.retriesExhausted (rest.toNat?.getD 0).toUInt32)
  | "timeout" => some .timeout
  | "shutdown" => some .shutdown
  | "panicked" => some (.panicked rest)
  | _ => none

/-- The outcome that a script asks for: an error, a panic with or without a text, or success. -/
def outcomeOf (text : String) : Outcome :=
  let (kind, rest) := splitText text
  match kind with
  | "panic_str" => .panicked (.text rest)
  | "panic_string" => .panicked (.text rest)
  | "panic_other" => .panicked .other
  | _ =>
    match errorOf? text with
    | some e => .returned (.error e)
    | none => .returned (.ok ())

/-! ## Following the script -/

/-- A script without outcomes. -/
def blank (name : String) (namePanicsAt : Option Nat) : Script α where
  exporterName := name
  namePanicsAt := namePanicsAt
  nameCalls := 0
  sends := []
  flushes := []
  closes := []
  memory := Memory.empty
  slept := Duration.zero
  log := []

/-- Adds outcomes for a kind of request. -/
def append (s : Script α) (kind : Request.Kind) (outcomes : List Outcome) : Script α :=
  match kind with
  | .send => { s with sends := s.sends ++ outcomes }
  | .flush => { s with flushes := s.flushes ++ outcomes }
  | .close => { s with closes := s.closes ++ outcomes }

/-- The next outcome of a kind of request. -/
def nextOutcome (s : Script α) (kind : Request.Kind) : Outcome × Script α :=
  let take (outcomes : List Outcome) : Outcome := outcomes.headD (.returned (.ok ()))
  match kind with
  | .send => (take s.sends, { s with sends := s.sends.tail })
  | .flush => (take s.flushes, { s with flushes := s.flushes.tail })
  | .close => (take s.closes, { s with closes := s.closes.tail })

/-- Adds a line to the log. -/
def note (s : Script α) (entry : Entry α) : Script α :=
  { s with log := s.log ++ [entry] }

/-- The first half of a call. A batch starts the clock anew. -/
def enter (request : Request α) (s : Script α) : Script α :=
  let s := s.note (.called request s.slept)
  match request with
  | .send _ => { s with slept := Duration.zero }
  | _ => s

/-- The second half of a call. -/
def leave (request : Request α) (s : Script α) : Outcome × Script α :=
  match s.nextOutcome request.kind with
  | (.panicked p, s) => (.panicked p, s.note .panics)
  | (.returned (.error e), s) => (.returned (.error e), s.note (.returns (.error e)))
  | (.returned (.ok ()), s) =>
    let c := Memory.call request s.memory
    let s := { s with memory := c.state }
    match c.outcome with
    | .returned r => (.returned r, s.note (.returns r))
    | .panicked p => (.panicked p, s.note .panics)

/-- A whole call. -/
def call (request : Request α) (s : Script α) : Call (Script α) :=
  let (outcome, s) := (s.enter request).leave request
  ⟨outcome, [], s⟩

/-- Asks for the name. -/
def askName (s : Script α) : Except Panic String × Script α :=
  let s := { s with nameCalls := s.nameCalls + 1 }
  if s.namePanicsAt = some s.nameCalls then (.error (.text "name panicked"), s)
  else (.ok s.exporterName, s)

/-- Lets time pass. -/
def elapse (d : Duration) (s : Script α) : Script α :=
  { s with slept := s.slept.saturatingAdd d }

/-- The exporter. -/
def exporter (α : Type) : Exporter α (Script α) :=
  ⟨call, askName, elapse⟩

end Script

end Telemetry
