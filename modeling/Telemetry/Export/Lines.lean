import Telemetry.Export.Basic
import Telemetry.Export.Writer
import Telemetry.Json.Place

set_option autoImplicit false

/-! # Writing one line per record

Two exporters write to a writer. One writes every record as a line of JSON and gives the writer
up when it is closed. The other, for looking at records on a console, writes a header and the
diagnostic text of every record, or nothing at all unless it is told to. -/

namespace Telemetry

/-! ## Lines of JSON -/

/-- The JSON text of a record. A record that cannot be written in full has the text up to that
point and the reason. -/
structure Encoded where
  text : String
  failure : Option String

/-- The text of a record that can be written. -/
def Encoded.whole (text : String) : Encoded :=
  ⟨text, none⟩

/-- An exporter of lines: its writer, and whether it still has it. -/
structure Lines (ω : Type) where
  writer : ω
  isOpen : Bool

namespace Lines

variable {α ω : Type}

/-- An exporter that has its writer. -/
def onto (writer : ω) : Lines ω :=
  ⟨writer, true⟩

/-- The writer, unless it was given up. -/
def writer? (l : Lines ω) : Option ω :=
  if l.isOpen then some l.writer else none

/-- Writes a record and ends its line. A failure inside the record counts as one of its form, a
failure behind it as one of delivery. -/
def writeRecord (encode : α → Encoded) (w : Writer ω) (a : α) (s : ω) : Outcome × ω :=
  match w.writeAll (utf8 (encode a).text) s with
  | (.error failure, s) => (failure.outcome .serialization, s)
  | (.ok (), s) =>
    match (encode a).failure with
    | some reason => (.returned (.error (.serialization (Json.normalPlace reason))), s)
    | none =>
      match w.writeAll [newline] s with
      | (.error failure, s) => (failure.outcome .transport, s)
      | (.ok (), s) => (.returned (.ok ()), s)

/-- Writes records up to the first failure. -/
def writeRecords (encode : α → Encoded) (w : Writer ω) : List α → ω → Outcome × ω
  | [], s => (.returned (.ok ()), s)
  | a :: rest, s =>
    match writeRecord encode w a s with
    | (.returned (.ok ()), s) => writeRecords encode w rest s
    | failed => failed

/-- Flushes the writer. -/
def flushWriter (w : Writer ω) (s : ω) : Outcome × ω :=
  match w.flush s with
  | (.ok (), s) => (.returned (.ok ()), s)
  | (.error failure, s) => (failure.outcome .transport, s)

/-- Answers a request. The writer is taken away before it is flushed for the last time, and not used
afterwards. -/
def call (encode : α → Encoded) (w : Writer ω) (request : Request α) (l : Lines ω) :
    Call (Lines ω) :=
  if l.isOpen then
    match request with
    | .send batch =>
      let (o, s) := writeRecords encode w batch l.writer
      ⟨o, [], ⟨s, true⟩⟩
    | .flush _ =>
      let (o, s) := flushWriter w l.writer
      ⟨o, [], ⟨s, true⟩⟩
    | .close _ =>
      let (o, s) := flushWriter w l.writer
      ⟨o, [], ⟨s, false⟩⟩
  else
    match request with
    | .send _ => .answer (.error .shutdown) l
    | .flush _ => .answer (.error .shutdown) l
    | .close _ => .answer (.ok ()) l

/-- The exporter. -/
def exporter (encode : α → Encoded) (w : Writer ω) : Exporter α (Lines ω) :=
  .plain "json_lines" (call encode w)

end Lines

/-! ## Diagnostic texts -/

/-- An exporter of diagnostic texts. -/
structure Display (ω : Type) where
  writer : ω
  isVerbose : Bool
  isClosed : Bool

namespace Display

variable {α ω : Type}

/-- The line above a batch. -/
def header (count : Nat) : String :=
  "=== Exporting " ++ Nat.repr count ++ " records ==="

/-- Writes lines up to the first failure. -/
def writeLines (w : Writer ω) : List String → ω → Outcome × ω
  | [], s => (.returned (.ok ()), s)
  | line :: rest, s =>
    match w.writeAll (utf8 line ++ [newline]) s with
    | (.ok (), s) => writeLines w rest s
    | (.error failure, s) => (failure.outcome .transport, s)

/-- Answers a request. -/
def call (debug : α → String) (w : Writer ω) (request : Request α) (d : Display ω) :
    Call (Display ω) :=
  match request with
  | .send batch =>
    if d.isClosed then .answer (.error .shutdown) d
    else if d.isVerbose then
      let (o, s) := writeLines w (header batch.length :: batch.map debug) d.writer
      ⟨o, [], { d with writer := s }⟩
    else .answer (.ok ()) d
  | .flush _ =>
    let (o, s) := Lines.flushWriter w d.writer
    ⟨o, [], { d with writer := s }⟩
  | .close _ => .answer (.ok ()) { d with isClosed := true }

/-- The exporter. -/
def exporter (debug : α → String) (w : Writer ω) : Exporter α (Display ω) :=
  .plain "stdout" (call debug w)

end Display

end Telemetry
