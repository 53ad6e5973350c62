import Telemetry.Proofs.Export.Framing

set_option autoImplicit false

/-! # Writers that fail

A writer may fail at any byte that it is offered. The bytes that it took until then are the front of
those that a writer without failures takes. The byte at which it fails decides how the failure of an
export of lines of JSON is told: only at the end of a line is it one of delivery. -/

namespace Telemetry

variable {α ω υ : Type}

/-! ## Writing everything, or a front of it -/

section

variable {w : Writer ω} {ready : ω → Prop} {content : ω → List UInt8}

/-- From the states `ready` the writer takes a front of what it is offered, which may be empty, and
stays ready; or it takes nothing and returns an error. `content` is what it took altogether. -/
structure Writer.Tells (w : Writer ω) (ready : ω → Prop) (content : ω → List UInt8) : Prop where
  write : ∀ {s} bytes, ready s →
    (∃ n t, w.write bytes s = (.ok n, t) ∧ n ≤ bytes.length ∧ ready t ∧
      content t = content s ++ bytes.take n) ∨
    ∃ reason t, w.write bytes s = (.error (.error reason), t) ∧ content t = content s

/-- Either all bytes come across, or a front of them that some byte is still behind. -/
theorem Writer.Tells.writeAll (h : w.Tells ready content) (bytes : List UInt8) {s : ω}
    (start : ready s) :
    (∃ t, w.writeAll bytes s = (.ok (), t) ∧ ready t ∧ content t = content s ++ bytes) ∨
    ∃ reason t taken b pending, w.writeAll bytes s = (.error (.error reason), t) ∧
      bytes = taken ++ b :: pending ∧ content t = content s ++ taken := by
  induction length : bytes.length using Nat.strongRecOn generalizing bytes s with
  | _ size ih =>
    unfold Writer.writeAll
    cases bytes with
    | nil => exact .inl ⟨s, rfl, start, by simp⟩
    | cons b rest =>
      rcases h.write (b :: rest) start with
        ⟨n, t, wrote, -, still, took⟩ | ⟨reason, t, failed, same⟩
      · simp only [wrote]
        cases n with
        | zero => exact .inr ⟨_, t, [], b, rest, rfl, rfl, by simpa using took⟩
        | succ n =>
          have fewer : (rest.drop n).length < size := by
            rw [← length, List.length_drop, List.length_cons]
            omega
          have halves : b :: rest = (b :: rest).take (n + 1) ++ rest.drop n := by simp
          rcases ih _ fewer (rest.drop n) still rfl with
            ⟨u, wroteRest, still', tookRest⟩ |
            ⟨reason, u, taken, c, pending, failed, parts, tookRest⟩
          · refine .inl ⟨u, wroteRest, still', ?_⟩
            rw [tookRest, took, List.append_assoc, ← halves]
          · refine .inr ⟨reason, u, (b :: rest).take (n + 1) ++ taken, c, pending, failed, ?_, ?_⟩
            · rw [List.append_assoc, ← parts, ← halves]
            · rw [tookRest, took, List.append_assoc]
      · exact .inr ⟨reason, t, [], b, rest, by simp only [failed], rfl, by simpa using same⟩

/-- A sink may run full at any byte. -/
theorem Sink.tells : writer.Tells (fun _ => True) Sink.bytes where
  write := by
    intro s offered _
    have within : (allowed s.room (allowed s.chunk offered)) <+: offered := by
      rw [allowed_eq_take s.room, allowed_eq_take s.chunk]
      exact (List.take_prefix _ _).trans (List.take_prefix _ _)
    by_cases full : s.room = some 0
    · by_cases stalls : s.stalls = true
      · exact .inl ⟨0, s, by simp [writer, Sink.write, full, stalls], by simp, trivial, by simp⟩
      · exact .inr ⟨"disk on fire", s, by simp [writer, Sink.write, full, stalls], rfl⟩
    · refine .inl ⟨_, _, by simp only [writer, Sink.write, if_neg full]; rfl, within.length_le,
        trivial, ?_⟩
      rw [← List.prefix_iff_eq_take.1 within]
      simp [bytes]

/-! ## Where a line is cut off -/

/-- Of `bytes` only `taken` came across, because the writer failed at the byte behind. Inside a line
this counts as a failure of its form, and at its end as one of delivery. -/
inductive Lines.Cut (bytes taken : List UInt8) : ExportError → Prop where
  | inside (b : UInt8) (pending : List UInt8) (reason : String)
      (parts : bytes = taken ++ b :: pending) (plain : b ≠ newline) :
      Cut bytes taken (.serialization reason)
  | atEnd (pending : List UInt8) (reason : String) (parts : bytes = taken ++ newline :: pending) :
      Cut bytes taken (.transport reason)

namespace Lines.Cut

variable {bytes taken : List UInt8} {e : ExportError}

theorem isPrefix (h : Cut bytes taken e) : taken <+: bytes := by
  cases h with
  | inside b pending reason parts plain => exact ⟨_, parts.symm⟩
  | atEnd pending reason parts => exact ⟨_, parts.symm⟩

/-- Nothing that would have come later changes where it was cut off. -/
theorem append_right (h : Cut bytes taken e) (more : List UInt8) : Cut (bytes ++ more) taken e := by
  cases h with
  | inside b pending reason parts plain =>
      exact .inside b (pending ++ more) reason (by simp [parts]) plain
  | atEnd pending reason parts => exact .atEnd (pending ++ more) reason (by simp [parts])

theorem append_left (h : Cut bytes taken e) (front : List UInt8) :
    Cut (front ++ bytes) (front ++ taken) e := by
  cases h with
  | inside b pending reason parts plain => exact .inside b pending reason (by simp [parts]) plain
  | atEnd pending reason parts => exact .atEnd pending reason (by simp [parts])

end Lines.Cut

/-! ## Records over a writer that fails -/

namespace Lines

/-- Writing `bytes` from the state `s` on: all of them come across, or they are cut off. -/
inductive Ends (ready : ω → Prop) (content : ω → List UInt8) (s : ω) (bytes : List UInt8) :
    Outcome × ω → Prop where
  | whole {t : ω} (still : ready t) (all : content t = content s ++ bytes) :
      Ends ready content s bytes (.returned (.ok ()), t)
  | short {t : ω} {taken : List UInt8} {e : ExportError} (cut : Cut bytes taken e)
      (front : content t = content s ++ taken) :
      Ends ready content s bytes (.returned (.error e), t)

variable {encode : α → String}

/-- One record, whose text has no line break, and the end of its line. -/
theorem writeRecord_ends (h : w.Tells ready content) (oneLine : ∀ a, Text.OneLine (encode a))
    (a : α) {s : ω} (start : ready s) :
    Ends ready content s (utf8 (encode a) ++ [newline])
      (writeRecord (fun a => .whole (encode a)) w a s) := by
  unfold writeRecord
  rcases h.writeAll (utf8 (encode a)) start with
    ⟨t, wrote, still, text⟩ | ⟨reason, t, taken, b, pending, failed, parts, front⟩
  · rcases h.writeAll [newline] still with
      ⟨u, ended, readyLine, line⟩ | ⟨reason, u, taken, b, pending, failed, parts, front⟩
    · simp only [Encoded.whole, wrote, ended]
      exact .whole readyLine (by simp [line, text])
    · have nothing : taken = [] := by
        have := congrArg List.length parts
        simp at this
        exact List.length_eq_zero_iff.1 (by omega)
      simp only [Encoded.whole, wrote, failed, Writer.Failure.outcome]
      exact .short (.atEnd [] reason rfl) (by simp [front, text, nothing])
  · have plain : b ≠ newline := by
      rintro rfl
      exact newline_notMem_utf8 (oneLine a) (by simp [parts])
    simp only [Encoded.whole, failed, Writer.Failure.outcome]
    exact .short (.inside b (pending ++ [newline]) reason (by simp [parts]) plain) front

/-- A batch, by its records: those in front of the failing one are across as a whole. -/
theorem writeRecords_ends (h : w.Tells ready content) (oneLine : ∀ a, Text.OneLine (encode a))
    (batch : List α) {s : ω} (start : ready s) :
    Ends ready content s (lineBytes (batch.map encode))
      (writeRecords (fun a => .whole (encode a)) w batch s) := by
  induction batch generalizing s with
  | nil => exact .whole start (by simp [lineBytes])
  | cons a batch ih =>
      have split : lineBytes ((a :: batch).map encode) =
          utf8 (encode a) ++ [newline] ++ lineBytes (batch.map encode) := by
        simp [lineBytes]
      have record := writeRecord_ends h oneLine a start
      rw [split, writeRecords]
      generalize writeRecord (fun a => .whole (encode a)) w a s = ending at record ⊢
      cases record with
      | @whole t still line =>
          have rest := ih still
          simp only
          generalize writeRecords (fun a => .whole (encode a)) w batch t = ending at rest ⊢
          cases rest with
          | whole still' more => exact .whole still' (by rw [more, line, List.append_assoc])
          | short cut front =>
              exact .short (cut.append_left _) (by rw [front, line, List.append_assoc])
      | short cut front => exact .short (cut.append_right _) front

/-! ## Batches over two writers -/

/-- From `s` and `r` on, let the same batch be exported over the writers `w` and `v`. Over `v` the
lines of all records come across. Over `w` they do as well, or the failure of the writer cuts them
off, and then the caller is told of it as the byte at which this happens has it. -/
def FallsShort (encode : α → String) (w : Writer ω) (content : ω → List UInt8) (s : ω)
    (v : Writer υ) (received : υ → List UInt8) (r : υ) : Prop :=
  ∀ batch : List α,
    let whole := lineBytes (batch.map encode)
    let short := (exporter (fun a => .whole (encode a)) w).call (.send batch) (.onto s)
    let full := (exporter (fun a => .whole (encode a)) v).call (.send batch) (.onto r)
    (full.outcome = .returned (.ok ()) ∧ received full.state.writer = received r ++ whole) ∧
    ((short.outcome = .returned (.ok ()) ∧ content short.state.writer = content s ++ whole) ∨
      ∃ e taken, short.outcome = .returned (.error e) ∧ Cut whole taken e ∧ taken <+: whole ∧
        content short.state.writer = content s ++ taken)

theorem fallsShort {v : Writer υ} {steady : υ → Prop} {received : υ → List UInt8}
    (tells : w.Tells ready content) (accepts : v.Accepts steady received)
    (oneLine : ∀ a, Text.OneLine (encode a)) {s : ω} {r : υ} (start : ready s) (begun : steady r) :
    FallsShort encode w content s v received r := by
  intro batch
  obtain ⟨t, wrote, -, bytes⟩ := writeRecords_accepts accepts encode batch begun
  have ends := writeRecords_ends tells oneLine batch start
  simp only [exporter, Exporter.plain, call, onto, wrote, ↓reduceIte]
  generalize writeRecords (fun a => .whole (encode a)) w batch s = ending at ends ⊢
  refine ⟨⟨trivial, bytes⟩, ?_⟩
  cases ends with
  | whole still all => exact .inl ⟨rfl, all⟩
  | short cut front => exact .inr ⟨_, _, rfl, cut, cut.isPrefix, front⟩

end Lines

/-- **The byte at which a writer fails decides how this is told.** Export any batch over a writer
that may return an error at any byte. If it does, what it took before is a front of what a writer
that does not fail gets from this batch. The export returns an error of delivery if the writer
failed at the end of a line, and an error of serialization if it failed inside the text of a
record. -/
theorem failures_are_told_by_their_byte {v : Writer υ} {steady : υ → Prop}
    {received : υ → List UInt8} (tells : w.Tells ready content)
    (accepts : v.Accepts steady received) {s : ω} {r : υ} (start : ready s) (begun : steady r) :
    Lines.FallsShort Span.encode w content s v received r ∧
      Lines.FallsShort LogEntry.encode w content s v received r := by
  constructor
  · exact Lines.fallsShort tells accepts Span.oneLine_encode start begun
  · exact Lines.fallsShort tells accepts LogEntry.oneLine_encode start begun

end

/-- A short entry. -/
def diskEntry : LogEntry :=
  .make .info "disk" 7

/-- A sink that runs full in the first name of a record. -/
def tightSink : Sink :=
  { Sink.unlimited with room := some 5 }

/-- Over this sink the failure to deliver the entry is told as one of its form. -/
theorem failures_are_told_by_their_byte_of_full_sink :
    ∃ call, call = (Lines.exporter (fun r : LogEntry => .whole r.encode) Sink.writer).call
        (.send [diskEntry]) (.onto tightSink) ∧
      call.state.writer.bytes = utf8 "\x7b\x22tim" ∧
      ∃ reason, call.outcome = .returned (.error (.serialization reason)) := by
  have wrote : ((Lines.exporter (fun r : LogEntry => .whole r.encode) Sink.writer).call
      (.send [diskEntry]) (.onto tightSink)).state.writer.bytes = utf8 "\x7b\x22tim" := by
    decide +kernel
  refine ⟨_, rfl, wrote, ?_⟩
  obtain ⟨-, falls⟩ := failures_are_told_by_their_byte Sink.tells Sink.accepts
    (s := tightSink) (r := .unlimited) trivial ⟨rfl, by decide, rfl⟩
  obtain ⟨-, ⟨-, all⟩ | ⟨e, taken, told, cut, -, front⟩⟩ := falls [diskEntry]
  · exact absurd (wrote.symm.trans all) (by decide +kernel)
  · have five : taken = utf8 "\x7b\x22tim" := front.symm.trans wrote
    cases cut with
    | inside b pending reason parts plain => exact ⟨reason, told⟩
    | atEnd pending reason parts =>
        have next : (lineBytes [diskEntry.encode])[5]? = some newline := by
          rw [show lineBytes [diskEntry.encode] = _ from parts, five,
            List.getElem?_append_right (by decide +kernel),
            show (utf8 "\x7b\x22tim").length = 5 by decide +kernel]
          rfl
        exact absurd next (by decide +kernel)

end Telemetry
