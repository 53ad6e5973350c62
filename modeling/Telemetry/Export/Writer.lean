import Telemetry.Export.Basic

set_option autoImplicit false

/-! # Writers

A writer takes bytes. It may take only some of those offered, and it may fail or panic; what it took
before stays taken. `writeAll` offers the rest again until all of it is taken. Two writers are
supplied: a sink of limited room, and a console that keeps the last line until it is complete. -/

namespace Telemetry

/-- The bytes of a text in UTF-8. -/
def utf8 (s : String) : List UInt8 :=
  s.toList.flatMap String.utf8EncodeChar

/-- The byte that ends a line. -/
def newline : UInt8 := 10

/-- Why a writer did not do what it was asked for. -/
inductive Writer.Failure where
  | error (reason : String)
  | panic (p : Panic)

/-- How a call ends in which a writer failed; `kind` is what its errors count as. -/
def Writer.Failure.outcome (kind : String → ExportError) : Writer.Failure → Outcome
  | .error reason => .returned (.error (kind reason))
  | .panic p => .panicked p

/-- A writer with states `ω`. -/
structure Writer (ω : Type) where
  /-- Offers bytes; the answer is how many of them were taken, or why none were. -/
  write : List UInt8 → ω → Except Writer.Failure Nat × ω
  /-- Passes on what is held back. -/
  flush : ω → Except Writer.Failure Unit × ω

namespace Writer

variable {ω : Type}

/-- What is reported when a writer takes nothing. -/
def stalled : Failure :=
  .error "failed to write whole buffer"

/-- Offers bytes until all are taken or the writer fails. A writer that takes nothing fails. -/
def writeAll (w : Writer ω) (bytes : List UInt8) (s : ω) : Except Failure Unit × ω :=
  match bytes with
  | [] => (.ok (), s)
  | b :: rest =>
    match w.write (b :: rest) s with
    | (.error failure, s) => (.error failure, s)
    | (.ok 0, s) => (.error stalled, s)
    | (.ok (n + 1), s) => writeAll w (rest.drop n) s
termination_by bytes.length
decreasing_by simp only [List.length_drop, List.length_cons]; omega

end Writer

/-! ## A sink of limited room -/

/-- A store for bytes. -/
structure Sink where
  /-- The bytes that it took, the latest one first. -/
  taken : List UInt8
  /-- How many bytes it takes at a time, if there is a limit. -/
  chunk : Option Nat
  /-- How many more bytes it takes, if there is a limit. -/
  room : Option Nat
  /-- Whether it takes nothing, rather than failing, once it is full. -/
  stalls : Bool
  refusesFlush : Bool
  flushes : Nat

namespace Sink

/-- A sink without limits. -/
def unlimited : Sink :=
  ⟨[], none, none, false, false, 0⟩

/-- The bytes that it took, in order. -/
def bytes (s : Sink) : List UInt8 :=
  s.taken.reverse

/-- The bytes that a limit lets through. -/
def allowed (limit : Option Nat) (bytes : List UInt8) : List UInt8 :=
  match limit with
  | none => bytes
  | some n => bytes.take n

/-- Takes as many bytes as the limits allow. -/
def write (bytes : List UInt8) (s : Sink) : Except Writer.Failure Nat × Sink :=
  if s.room = some 0 then (if s.stalls then .ok 0 else .error (.error "disk on fire"), s)
  else
    let part := allowed s.room (allowed s.chunk bytes)
    (.ok part.length,
      { s with taken := part.reverse ++ s.taken, room := s.room.map (· - part.length) })

/-- Counts the request, and refuses it if told to. -/
def flush (s : Sink) : Except Writer.Failure Unit × Sink :=
  (if s.refusesFlush then .error (.error "flush refused") else .ok (),
    { s with flushes := s.flushes + 1 })

/-- The writer. -/
def writer : Writer Sink :=
  ⟨write, flush⟩

end Sink

/-! ## A console -/

/-- A device behind a line buffer: bytes reach it when a line is complete, or when an incomplete
line outgrows the buffer. -/
structure Console where
  /-- Whether the device refuses all bytes. -/
  isFull : Bool
  /-- What the device has. -/
  shown : List UInt8
  /-- What waits for the end of its line. -/
  pending : List UInt8

namespace Console

/-- How much of a line is held back. -/
def lineCapacity : Nat := 1024

/-- A console that has shown nothing. -/
def blank (isFull : Bool) : Console :=
  ⟨isFull, [], []⟩

/-- Passes bytes on to the device behind those that wait. -/
def pass (bytes : List UInt8) (c : Console) : Except Writer.Failure Unit × Console :=
  if c.isFull && !(c.pending ++ bytes).isEmpty then
    (.error (.error "No space left on device (os error 28)"), c)
  else (.ok (), { c with shown := c.shown ++ c.pending ++ bytes, pending := [] })

/-- Splits bytes behind the last line break. -/
def splitLines (bytes : List UInt8) : List UInt8 × List UInt8 :=
  let tail := (bytes.reverse.takeWhile (· != newline)).reverse
  (bytes.take (bytes.length - tail.length), tail)

/-- Takes all bytes; those of complete lines reach the device. -/
def write (bytes : List UInt8) (c : Console) : Except Writer.Failure Nat × Console :=
  let (lines, tail) := splitLines bytes
  if lines.isEmpty && c.pending.length + bytes.length ≤ lineCapacity then
    (.ok bytes.length, { c with pending := c.pending ++ bytes })
  else
    match c.pass (if lines.isEmpty then bytes else lines) with
    | (.error failure, c) => (.error failure, c)
    | (.ok (), c) =>
      (.ok bytes.length, if lines.isEmpty then c else { c with pending := tail })

/-- Passes on an incomplete line. -/
def flush (c : Console) : Except Writer.Failure Unit × Console :=
  c.pass []

/-- The writer. -/
def writer : Writer Console :=
  ⟨write, flush⟩

end Console

end Telemetry
