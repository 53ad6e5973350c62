import Telemetry.Proofs.Export.Framing
import Telemetry.Proofs.Json.Refusals
import Telemetry.Proofs.Record.RoundTrip

set_option autoImplicit false

/-! # Lines that are not read back

A float that is no number or infinite has no form in JSON. It is written as `null` all the same, and
the exporter reports nothing; but `null` is no attribute value, so the reader refuses the line.
These are the only records whose lines are refused. -/

namespace Telemetry

open Json

/-- Whether all values are no NaN and no infinity. -/
def AllFinite (attributes : List Attribute) : Prop :=
  ∀ a ∈ attributes, a.value.isFinite = true

instance (attributes : List Attribute) : Decidable (AllFinite attributes) :=
  inferInstanceAs (Decidable (∀ a ∈ attributes, a.value.isFinite = true))

/-- What the reader reports about a value that is of no kind. -/
def noValue : Fault :=
  .mismatch (.noAlternative "AttributeValue")

/-! ## Attributes -/

theorem Json.float_of_not_finite {x : Float} (h : x.isFinite = false) : float x = "null" := by
  have number : x.isNaN = true ∨ x.isInf = true := by
    unfold Float.isFinite Float.Model.isFinite at h
    unfold Float.isNaN Float.Model.isNaN Float.isInf Float.Model.isInf
    cases unpacked : x.toModel.unpack with
    | infinity s => exact .inr rfl
    | notANumber => exact .inl rfl
    | zero s | finite s m e pos =>
        rw [unpacked] at h
        cases h
  rw [float, Decimal.Format.render]
  rcases number with nan | infinite
  · rw [if_pos nan]
    rfl
  · simp only [infinite, ↓reduceIte]
    split
    · rfl
    · split <;> rfl

theorem AttributeValue.refuses {v : AttributeValue} (h : v.isFinite = false) :
    Refuses decode 1 v.encode.toList noValue := by
  have null : v.encode = "null" := by
    cases v with
    | float x => exact float_of_not_finite h
    | text s | int i | bool b | texts items => cases h
  rw [null]
  refine ⟨⟨'n', ['u', 'l', 'l'], by decide, by decide, by decide⟩, ?_⟩
  intro depth rest _ _
  have read : readValue depth ("null".toList ++ rest) = .ok (.null, rest) := by
    unfold readValue
    simp [skipBlank_cons, isBlank, readWord]
  rw [decode, read]
  rfl

theorem Attribute.refuses {a : Attribute} (h : a.value.isFinite = false) :
    Refuses Attribute.decode 2 a.encode.toList noValue := by
  have front : shape.Fills 1 shape.blank [("key", quote a.key)] ⟨some a.key, none⟩ :=
    .slot rfl rfl ((reads_quote a.key).mono (Nat.zero_le 1)) (.nil _)
  exact front.refuses rfl rfl (AttributeValue.refuses h)

/-- The reader stops at the first value that is not finite. -/
theorem firstRefused_of_not_finite {attributes : List Attribute} (h : ¬AllFinite attributes) :
    FirstRefused Attribute.decode 2 noValue
      ((attributes.map Attribute.encode).map String.toList) := by
  induction attributes with
  | nil => exact absurd (fun a none => absurd none List.not_mem_nil) h
  | cons a attributes ih =>
      by_cases finite : a.value.isFinite = true
      · obtain ⟨b, -, read⟩ := Attribute.exists_reads finite
        refine .later read (ih fun others => h ?_)
        simpa [AllFinite, finite] using others
      · exact .here (Attribute.refuses (Bool.eq_false_iff.2 finite))

theorem refuses_attributes {attributes : List Attribute} (h : ¬AllFinite attributes) :
    Refuses (decodeList Attribute.decode) 3 (encodeAttributes attributes).toList noValue :=
  refuses_array (firstRefused_of_not_finite h)

/-! ## Records -/

theorem Span.refuses {s : Span} (h : ¬AllFinite s.attributes) :
    Refuses Span.decode 4 s.encode.toList noValue :=
  s.fills_front.refuses rfl rfl (refuses_attributes h)

theorem LogEntry.refuses {r : LogEntry} (h : ¬AllFinite r.attributes) :
    Refuses LogEntry.decode 4 r.encode.toList noValue :=
  r.fills_front.refuses rfl rfl (refuses_attributes h)

/-- **Exactly the lines of finite values are read back.** Let the writer take whatever it is
offered. The exporter of JSON accepts every batch until it is closed, and writes the text of each
record as a line, whatever its attributes are. The reader accepts the line if all values are finite,
and if one of them is no number or infinite, refuses it as a value of no kind. -/
theorem exactly_finite_lines_read_back {ω : Type} {w : Writer ω} {ready : ω → Prop}
    {content : ω → List UInt8} (h : w.Accepts ready content) {s : ω} (start : ready s) :
    ((Lines.exporter (fun r : Span => .whole r.encode) w).WritesLines
        (fun l => content l.writer) (.onto s) (fun batch => batch.map Span.encode) ∧
      (Lines.exporter (fun r : LogEntry => .whole r.encode) w).WritesLines
        (fun l => content l.writer) (.onto s) (fun batch => batch.map LogEntry.encode)) ∧
    (∀ r : Span,
      (AllFinite r.attributes → ∃ r', decodeText Span.decode r.encode = .ok r') ∧
      (¬AllFinite r.attributes → decodeText Span.decode r.encode = .error noValue)) ∧
    ∀ r : LogEntry,
      (AllFinite r.attributes → ∃ r', decodeText LogEntry.decode r.encode = .ok r') ∧
      (¬AllFinite r.attributes → decodeText LogEntry.decode r.encode = .error noValue) := by
  refine ⟨⟨?_, ?_⟩, fun r => ⟨fun finite => ?_, fun other => ?_⟩,
    fun r => ⟨fun finite => ?_, fun other => ?_⟩⟩
  · exact (Lines.lineByLine h Span.oneLine_encode).writesLines ⟨rfl, start⟩
  · exact (Lines.lineByLine h LogEntry.oneLine_encode).writesLines ⟨rfl, start⟩
  · obtain ⟨attributes, -, read⟩ := Span.exists_reads finite
    exact ⟨_, read.decodeText (by decide)⟩
  · exact (Span.refuses other).decodeText (by decide)
  · obtain ⟨attributes, -, read⟩ := LogEntry.exists_reads finite
    exact ⟨_, read.decodeText (by decide)⟩
  · exact (LogEntry.refuses other).decodeText (by decide)

/-- An entry with a value that is no number. -/
def noNumber : LogEntry :=
  (LogEntry.make .info "load" 0).withAttribute "average" (.float (0.0 / 0.0))

/-- A sink that does not fail is given a line that is not read back. -/
theorem exactly_finite_lines_read_back_of_nan :
    ∃ c, c = (Lines.exporter (fun r : LogEntry => .whole r.encode) Sink.writer).call
        (.send [noNumber]) (.onto .unlimited) ∧
      c.outcome = .returned (.ok ()) ∧
      c.state.writer.bytes.splitOn newline = [utf8 noNumber.encode, []] ∧
      decodeText LogEntry.decode noNumber.encode = .error noValue := by
  obtain ⟨⟨-, lines⟩, -, refused⟩ :=
    exactly_finite_lines_read_back Sink.accepts (s := .unlimited) ⟨rfl, by decide, rfl⟩
  obtain ⟨new, wrote, split⟩ := lines.written [.send [noNumber]]
  have accepted := lines.accepts [] (by simp) [noNumber]
  have line := (congrArg (List.splitOn newline) wrote).trans split
  exact ⟨_, rfl, accepted, line, (refused noNumber).2 (by decide +kernel)⟩

end Telemetry
