import Telemetry.Export.Lines
import Telemetry.Proofs.Export.Serving
import Telemetry.Proofs.Export.Writers

set_option autoImplicit false

/-! # One line per record

What the exporters write can be taken apart again at the ends of its lines, because no record brings
in a line break of its own. Over a writer that does not fail, the lines are those of the batches up
to the first request to close, in the order of the batches. -/

namespace Telemetry

variable {α σ ω : Type}

open Text Request

/-! ## Exporters that write lines -/

/-- From `s` on the exporter accepts every batch until it is closed, and what it has written, split
at the ends of lines, is the lines of the batches that it was given until then. -/
structure Exporter.WritesLines (E : Exporter α σ) (bytes : σ → List UInt8) (s : σ)
    (lines : List α → List String) : Prop where
  accepts : ∀ requests : List (Request α), (∀ request ∈ requests, request.kind ≠ .close) →
    ∀ batch, (E.call (.send batch) (E.serve requests s)).outcome = .returned (.ok ())
  written : ∀ requests, ∃ new, bytes (E.serve requests s) = bytes s ++ new ∧
    new.splitOn newline = ((openBatches requests).flatMap lines).map utf8 ++ [[]]

/-- What single requests have to do for that. -/
structure Exporter.LineByLine (E : Exporter α σ) (bytes : σ → List UInt8)
    (isOpen isShut : σ → Prop) (lines : List α → List String) : Prop where
  oneLine : ∀ batch, ∀ line ∈ lines batch, OneLine line
  send : ∀ {s} batch, isOpen s → ∃ t, E.call (.send batch) s = .answer (.ok ()) t ∧ isOpen t ∧
    bytes t = bytes s ++ lineBytes (lines batch)
  flush : ∀ {s} limit, isOpen s → isOpen (E.call (.flush limit) s).state ∧
    bytes (E.call (.flush limit) s).state = bytes s
  close : ∀ {s} limit, isOpen s → isShut (E.call (.close limit) s).state ∧
    bytes (E.call (.close limit) s).state = bytes s
  shut : ∀ {s} request, isShut s → isShut (E.call request s).state ∧
    bytes (E.call request s).state = bytes s

namespace Exporter.LineByLine

variable {E : Exporter α σ} {bytes : σ → List UInt8} {isOpen isShut : σ → Prop}
  {lines : List α → List String}

theorem lineBytes_append (first second : List String) :
    lineBytes (first ++ second) = lineBytes first ++ lineBytes second := by
  simp [lineBytes]

/-- In both states the bytes are those of the lines of the batches. -/
theorem collects (h : E.LineByLine bytes isOpen isShut lines) (old : List UInt8) :
    E.Collects (fun taken s => isOpen s ∧ bytes s = old ++ lineBytes (taken.flatMap lines))
      (fun taken s => isShut s ∧ bytes s = old ++ lineBytes (taken.flatMap lines)) where
  send := by
    rintro taken s batch ⟨ready, have_old⟩
    obtain ⟨t, answered, still, wrote⟩ := h.send batch ready
    rw [answered]
    refine ⟨still, ?_⟩
    rw [Call.answer, wrote, have_old]
    simp [lineBytes_append]
  flush := by
    rintro taken s limit ⟨ready, have_old⟩
    obtain ⟨still, same⟩ := h.flush limit ready
    exact ⟨still, same.trans have_old⟩
  close := by
    rintro taken s limit ⟨ready, have_old⟩
    obtain ⟨closed, same⟩ := h.close limit ready
    exact ⟨closed, same.trans have_old⟩
  shut := by
    rintro taken s request ⟨closed, have_old⟩
    obtain ⟨still, same⟩ := h.shut request closed
    exact ⟨still, same.trans have_old⟩

theorem writesLines (h : E.LineByLine bytes isOpen isShut lines) {s : σ} (start : isOpen s) :
    E.WritesLines bytes s lines := by
  have collects := h.collects (bytes s)
  have nothing : bytes s = bytes s ++ lineBytes (([] : List (List α)).flatMap lines) :=
    (List.append_nil _).symm
  constructor
  · intro requests unclosed batch
    obtain ⟨ready, -⟩ := collects.serve_open unclosed ⟨start, nothing⟩
    obtain ⟨t, answered, -⟩ := h.send batch ready
    rw [answered, Call.answer]
  · intro requests
    refine ⟨lineBytes ((openBatches requests).flatMap lines), ?_, splitOn_lineBytes ?_⟩
    · rcases collects.serve requests ⟨start, nothing⟩ with ⟨-, wrote⟩ | ⟨-, wrote⟩
      · simpa using wrote
      · simpa using wrote
    · intro line inside
      obtain ⟨batch, -, member⟩ := List.mem_flatMap.1 inside
      exact h.oneLine batch line member

end Exporter.LineByLine

/-! ## The two exporters -/

section

variable {w : Writer ω} {ready : ω → Prop} {content : ω → List UInt8}

theorem Lines.flushWriter_accepts (h : w.Accepts ready content) {s : ω} (start : ready s) :
    ready (flushWriter w s).2 ∧ content (flushWriter w s).2 = content s := by
  obtain ⟨t, flushed, still, same⟩ := h.flush start
  simp [flushWriter, flushed, still, same]

/-- Records that can be written in full, over a writer that does not fail. -/
theorem Lines.writeRecords_accepts (h : w.Accepts ready content) (encode : α → String)
    (batch : List α) {s : ω} (start : ready s) :
    ∃ t, writeRecords (fun a => .whole (encode a)) w batch s = (.returned (.ok ()), t) ∧ ready t ∧
      content t = content s ++ lineBytes (batch.map encode) := by
  induction batch generalizing s with
  | nil => exact ⟨s, rfl, start, by simp [lineBytes]⟩
  | cons a batch ih =>
      obtain ⟨t, wrote, readyText, text⟩ := h.writeAll (utf8 (encode a)) start
      obtain ⟨u, ended, readyLine, line⟩ := h.writeAll [newline] readyText
      obtain ⟨v, rest, still, more⟩ := ih readyLine
      have record : writeRecord (fun a => .whole (encode a)) w a s = (.returned (.ok ()), u) := by
        simp [writeRecord, Encoded.whole, wrote, ended]
      refine ⟨v, ?_, still, ?_⟩
      · rw [writeRecords, record]
        exact rest
      · rw [more, line, text]
        simp [lineBytes]

theorem Lines.lineByLine (h : w.Accepts ready content) {encode : α → String}
    (oneLine : ∀ a, OneLine (encode a)) :
    (Lines.exporter (fun a => .whole (encode a)) w).LineByLine (fun l => content l.writer)
      (fun l => l.isOpen = true ∧ ready l.writer) (fun l => l.isOpen = false)
      (fun batch => batch.map encode) where
  oneLine := by
    intro batch
    simp [oneLine]
  send := by
    rintro ⟨s, isOpen⟩ batch ⟨rfl, start⟩
    obtain ⟨t, wrote, still, bytes⟩ := writeRecords_accepts h encode batch start
    refine ⟨⟨t, true⟩, ?_, ⟨rfl, still⟩, bytes⟩
    simp [exporter, Exporter.plain, call, wrote, Call.answer]
  flush := by
    rintro ⟨s, isOpen⟩ limit ⟨rfl, start⟩
    obtain ⟨still, same⟩ := flushWriter_accepts h start
    exact ⟨⟨rfl, still⟩, same⟩
  close := by
    rintro ⟨s, isOpen⟩ limit ⟨rfl, start⟩
    exact ⟨rfl, (flushWriter_accepts h start).2⟩
  shut := by
    rintro ⟨s, isOpen⟩ request rfl
    cases request with
    | send batch => exact ⟨rfl, rfl⟩
    | flush limit => exact ⟨rfl, rfl⟩
    | close limit => exact ⟨rfl, rfl⟩

theorem Display.writeLines_accepts (h : w.Accepts ready content) (lines : List String) {s : ω}
    (start : ready s) :
    ∃ t, writeLines w lines s = (.returned (.ok ()), t) ∧ ready t ∧
      content t = content s ++ lineBytes lines := by
  induction lines generalizing s with
  | nil => exact ⟨s, rfl, start, by simp [lineBytes]⟩
  | cons line lines ih =>
      obtain ⟨t, wrote, readyLine, text⟩ := h.writeAll (utf8 line ++ [newline]) start
      obtain ⟨u, rest, still, more⟩ := ih readyLine
      refine ⟨u, ?_, still, ?_⟩
      · rw [writeLines, wrote]
        exact rest
      · rw [more, text]
        simp [lineBytes]

theorem Display.oneLine_header (count : Nat) : OneLine (header count) :=
  .append (.append (by decide) (oneLine_repr count)) (by decide)

theorem Display.lineByLine (h : w.Accepts ready content) {debug : α → String}
    (oneLine : ∀ a, OneLine (debug a)) :
    (Display.exporter debug w).LineByLine (fun d => content d.writer)
      (fun d => d.isVerbose = true ∧ d.isClosed = false ∧ ready d.writer)
      (fun d => d.isClosed = true ∧ ready d.writer)
      (fun batch => header batch.length :: batch.map debug) where
  oneLine := by
    intro batch
    simp [oneLine_header, oneLine]
  send := by
    rintro ⟨s, isVerbose, isClosed⟩ batch ⟨rfl, rfl, start⟩
    obtain ⟨t, wrote, still, bytes⟩ :=
      writeLines_accepts h (header batch.length :: batch.map debug) start
    refine ⟨⟨t, true, false⟩, ?_, ⟨rfl, rfl, still⟩, bytes⟩
    simp [exporter, Exporter.plain, call, wrote, Call.answer]
  flush := by
    rintro ⟨s, isVerbose, isClosed⟩ limit ⟨rfl, rfl, start⟩
    obtain ⟨still, same⟩ := Lines.flushWriter_accepts h start
    exact ⟨⟨rfl, rfl, still⟩, same⟩
  close := by
    rintro ⟨s, isVerbose, isClosed⟩ limit ⟨rfl, rfl, start⟩
    exact ⟨⟨rfl, start⟩, rfl⟩
  shut := by
    rintro ⟨s, isVerbose, isClosed⟩ request ⟨rfl, start⟩
    cases request with
    | send batch => exact ⟨⟨rfl, start⟩, rfl⟩
    | flush limit =>
        obtain ⟨still, same⟩ := Lines.flushWriter_accepts h start
        exact ⟨⟨rfl, still⟩, same⟩
    | close limit => exact ⟨⟨rfl, start⟩, rfl⟩

/-- **Every record is one line.** Let the writer take whatever it is offered, in pieces of any size.
Whatever strings and attributes the records have, and whatever batches, flushes and requests to
close come one after the other: every batch is accepted until the exporter is closed, and what the
exporter of JSON has written, split at the ends of lines, is the compact JSON of each record of
these batches in turn; what the verbose exporter for consoles has written is for each batch a
header with the number of its records, and the diagnostic text of each record. -/
theorem one_line_per_record (h : w.Accepts ready content) {s : ω} (start : ready s) :
    ((Lines.exporter (fun r : Span => .whole r.encode) w).WritesLines
        (fun l => content l.writer) (.onto s) (fun batch => batch.map Span.encode) ∧
      (Lines.exporter (fun r : LogEntry => .whole r.encode) w).WritesLines
        (fun l => content l.writer) (.onto s) (fun batch => batch.map LogEntry.encode)) ∧
    (Display.exporter Span.debug w).WritesLines (fun d => content d.writer) ⟨s, true, false⟩
        (fun batch => Display.header batch.length :: batch.map Span.debug) ∧
      (Display.exporter LogEntry.debug w).WritesLines (fun d => content d.writer)
        ⟨s, true, false⟩
        (fun batch => Display.header batch.length :: batch.map LogEntry.debug) := by
  refine ⟨⟨?_, ?_⟩, ?_, ?_⟩
  · exact (Lines.lineByLine h Span.oneLine_encode).writesLines ⟨rfl, start⟩
  · exact (Lines.lineByLine h LogEntry.oneLine_encode).writesLines ⟨rfl, start⟩
  · exact (Display.lineByLine h Span.oneLine_debug).writesLines ⟨rfl, rfl, start⟩
  · exact (Display.lineByLine h LogEntry.oneLine_debug).writesLines ⟨rfl, rfl, start⟩

end

/-- An entry with a line break in its text. -/
def brokenEntry : LogEntry :=
  .make .info "first\nsecond" 7

/-- Over a sink that takes three bytes at a time, and on a console. -/
theorem one_line_per_record_of_two_writers :
    (∃ sink : Sink, sink.chunk = some 3 ∧
      ((Lines.exporter (fun r : LogEntry => .whole r.encode) Sink.writer).serve
          [.send [brokenEntry], .flush .zero, .send [brokenEntry]]
          (.onto sink)).writer.bytes.splitOn newline =
        [utf8 brokenEntry.encode, utf8 brokenEntry.encode, []]) ∧
    ∃ console : Console, console = ((Display.exporter LogEntry.debug Console.writer).serve
        [.send [brokenEntry], .close .zero] ⟨.blank false, true, false⟩).writer ∧
      (console.shown ++ console.pending).splitOn newline =
        [utf8 "=== Exporting 1 records ===", utf8 brokenEntry.debug, []] := by
  constructor
  · obtain ⟨⟨-, lines⟩, -⟩ := one_line_per_record Sink.accepts
      (s := { Sink.unlimited with chunk := some 3 }) ⟨rfl, by decide, rfl⟩
    obtain ⟨new, wrote, split⟩ :=
      lines.written [.send [brokenEntry], .flush .zero, .send [brokenEntry]]
    exact ⟨_, rfl, (congrArg (List.splitOn newline) wrote).trans split⟩
  · obtain ⟨-, -, lines⟩ := one_line_per_record Console.accepts (s := .blank false) rfl
    obtain ⟨new, wrote, split⟩ := lines.written [.send [brokenEntry], .close .zero]
    exact ⟨_, rfl, (congrArg (List.splitOn newline) wrote).trans split⟩

end Telemetry
