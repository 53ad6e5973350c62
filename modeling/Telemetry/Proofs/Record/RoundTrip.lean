import Telemetry.Proofs.Json.Floats
import Telemetry.Proofs.Json.Objects
import Telemetry.Record.Log

set_option autoImplicit false

/-! # Records read back from their own text

The kind of an attribute value is not written, so it has to follow from the form of the text: only
texts have quotes, only lists have brackets, and of the numbers exactly the floats have a point or
an exponent. Hence every record is read back as it was, but for floats, which the reader may miss
by a little. NaN and the infinities are written as `null` and cannot be read back at all. -/

namespace Telemetry

open Json

/-! ## Attribute values -/

namespace AttributeValue

/-- Whether a value is no NaN and no infinity. -/
def isFinite : AttributeValue → Bool
  | .float x => x.isFinite
  | _ => true

/-- What a value is read back as: a float as the number that the reader takes its text for, any
other value as itself. -/
inductive ReadsBack : AttributeValue → AttributeValue → Prop
  | text (s : String) : ReadsBack (.text s) (.text s)
  | int (i : Int64) : ReadsBack (.int i) (.int i)
  | float {x y : Float}
      (read : readValue 0 (Json.float x).toList = .ok (.number (.float y), [])) :
      ReadsBack (.float x) (.float y)
  | bool (b : Bool) : ReadsBack (.bool b) (.bool b)
  | texts (items : List String) : ReadsBack (.texts items) (.texts items)

theorem reads_of_value {levels : Nat} {text : List Char} {value : Value} {v : AttributeValue}
    (h : Reads readValue levels text value) (fits : ofValue? value = some v) :
    Reads decode levels text v where
  starts := h.starts
  read := by
    intro depth rest room ends
    rw [decode, h.read room ends]
    simp only [bind, Except.bind, fits]
    rfl

theorem textsOf_map_string (items : List String) :
    textsOf (items.map Value.string) = some items := by
  induction items with
  | nil => rfl
  | cons s items ih => rw [List.map_cons, textsOf, ih, Option.map_some]

theorem reads_int (i : Int64) : Reads decode 0 (integer i.toInt).toList (.int i) := by
  have low : -9223372036854775808 ≤ i.toInt := i.le_toInt
  have high : i.toInt < 9223372036854775808 := i.toInt_lt
  by_cases neg : i.toInt < 0
  · -- The magnitude may be 2^63, which is no integer of 64 bits without its sign.
    have text : (integer i.toInt).toList = '-' :: Nat.toDigits 10 i.toInt.natAbs := by
      rw [integer, if_pos neg, String.toList_append, Nat.toList_repr]
      rfl
    have value : (-(i.toInt.natAbs : Int)).toInt64 = i := by
      rw [show -(i.toInt.natAbs : Int) = i.toInt by omega]
      exact Int64.ofInt_toInt i
    have reads := reads_negative (n := i.toInt.natAbs) (by omega)
      (by change _ ≤ 9223372036854775808; omega)
    rw [value] at reads
    rw [text]
    exact reads_of_value reads rfl
  · have text : (integer i.toInt).toList = (natural i.toInt.natAbs).toList := by
      rw [integer, if_neg neg, natural]
    have reads := reads_natural (n := i.toInt.natAbs)
      (by change _ < 18446744073709551616; omega)
    have small : i.toInt.natAbs.toUInt64.toNat < UInt64.size / 2 := by
      rw [Nat.toUInt64_eq, UInt64.toNat_ofNat_of_lt' (by change _ < 18446744073709551616; omega)]
      change _ < 9223372036854775808
      omega
    have value : i.toInt.natAbs.toUInt64.toInt64 = i := by
      rw [Nat.toUInt64_eq, UInt64.toInt64_ofNat', ← Int64.toInt_inj,
        Int64.toInt_ofNat_of_lt (by omega)]
      omega
    rw [text]
    exact reads_of_value reads (by rw [ofValue?, ofNumber, if_pos small, value])

/-- A finite value is read as a value of its kind. -/
theorem exists_reads {v : AttributeValue} (finite : v.isFinite = true) :
    ∃ w, v.ReadsBack w ∧ Reads decode 1 v.encode.toList w := by
  cases v with
  | text s => exact ⟨_, .text s, (reads_of_value (reads_string s) rfl).mono (Nat.zero_le 1)⟩
  | int i => exact ⟨_, .int i, (reads_int i).mono (Nat.zero_le 1)⟩
  | float x =>
      obtain ⟨y, reads⟩ := reads_float finite
      have alone := reads.read (Nat.zero_le 0) .nil
      rw [List.append_nil] at alone
      exact ⟨_, .float alone, (reads_of_value reads rfl).mono (Nat.zero_le 1)⟩
  | bool b => exact ⟨_, .bool b, (reads_of_value (reads_boolean b) rfl).mono (Nat.zero_le 1)⟩
  | texts items =>
      exact ⟨_, .texts items,
        reads_of_value (reads_strings items) (by rw [ofValue?, textsOf_map_string]; rfl)⟩

end AttributeValue

/-! ## Attributes -/

/-- An attribute is read back with its key. -/
structure Attribute.ReadsBack (a b : Attribute) : Prop where
  key : b.key = a.key
  value : a.value.ReadsBack b.value

theorem Attribute.exists_reads {a : Attribute} (finite : a.value.isFinite = true) :
    ∃ b, a.ReadsBack b ∧ Reads Attribute.decode 2 a.encode.toList b := by
  obtain ⟨w, value, reads⟩ := AttributeValue.exists_reads finite
  refine ⟨⟨a.key, w⟩, ⟨rfl, value⟩, ?_⟩
  exact Shape.Fills.reads (s := shape)
    (.slot rfl rfl ((reads_quote a.key).mono (Nat.zero_le 1)) <|
      .slot rfl rfl reads <| .nil _) rfl

theorem exists_reads_attributes {attributes : List Attribute}
    (finite : ∀ a ∈ attributes, a.value.isFinite = true) :
    ∃ attributes', List.Forall₂ Attribute.ReadsBack attributes attributes' ∧
      Reads (decodeList Attribute.decode) 3 (encodeAttributes attributes).toList attributes' := by
  have parts : ∃ attributes', List.Forall₂ Attribute.ReadsBack attributes attributes' ∧
      List.Forall₂ (Reads Attribute.decode 2)
        ((attributes.map Attribute.encode).map String.toList) attributes' := by
    induction attributes with
    | nil => exact ⟨[], .nil, .nil⟩
    | cons a attributes ih =>
        obtain ⟨b, back, reads⟩ := Attribute.exists_reads (finite a List.mem_cons_self)
        obtain ⟨more, backs, readss⟩ := ih fun a ha => finite a (List.mem_cons_of_mem _ ha)
        exact ⟨b :: more, .cons back backs, .cons reads readss⟩
  obtain ⟨attributes', back, reads⟩ := parts
  exact ⟨attributes', back, reads_array reads⟩

/-! ## Records -/

theorem SpanKind.lookup_name (kind : SpanKind) : SpanKind.names.lookup kind.name = some kind := by
  cases kind <;> rfl

theorem SpanStatus.lookup_name (status : SpanStatus) :
    SpanStatus.names.lookup status.name = some status := by
  cases status <;> rfl

theorem Severity.lookup_name (severity : Severity) :
    Severity.names.lookup severity.name = some severity := by
  cases severity <;> rfl

/-- An identifier that may be missing. -/
theorem reads_identifier {α : Type} {d : Decoder α} {number : α → Nat}
    (reads : ∀ x, Reads d 0 (natural (number x)).toList x) (id : Option α) :
    Reads (decodeOption d) 0 (nullable (id.map fun x => natural (number x))).toList id := by
  cases id with
  | none => exact reads_null d
  | some x =>
      refine (reads x).present ?_
      obtain ⟨c, cs, written, digit⟩ := (isWhole_toDigits (number x)).exists_cons
      rw [toList_natural, written]
      rintro ⟨⟩
      cases digit

/-- All fields of a span but its attributes are read from any text of it. -/
theorem Span.fills_front (s : Span) :
    shape.Fills 3 shape.blank
      [("trace_id", natural s.traceId.toNat), ("span_id", natural s.spanId.toNat),
       ("parent_span_id", natural s.parentSpanId.toNat), ("name", quote s.name),
       ("kind", quote s.kind.name), ("status", quote s.status.name),
       ("start_time_unix_nanos", natural s.startNanos.toNat),
       ("end_time_unix_nanos", natural s.endNanos.toNat)]
      ⟨some s.traceId, some s.spanId, some s.parentSpanId, some s.name, some s.kind,
        some s.status, some s.startNanos, some s.endNanos, none⟩ :=
  .slot rfl rfl ((reads_natural128 s.traceId).mono (Nat.zero_le 3)) <|
    .slot rfl rfl ((reads_natural64 s.spanId).mono (Nat.zero_le 3)) <|
    .slot rfl rfl ((reads_natural64 s.parentSpanId).mono (Nat.zero_le 3)) <|
    .slot rfl rfl ((reads_quote s.name).mono (Nat.zero_le 3)) <|
    .slot rfl rfl ((reads_name s.kind.lookup_name).mono (Nat.zero_le 3)) <|
    .slot rfl rfl ((reads_name s.status.lookup_name).mono (Nat.zero_le 3)) <|
    .slot rfl rfl ((reads_natural64 s.startNanos).mono (Nat.zero_le 3)) <|
    .slot rfl rfl ((reads_natural64 s.endNanos).mono (Nat.zero_le 3)) <| .nil _

/-- All fields of a log entry but its attributes are read from any text of it. -/
theorem LogEntry.fills_front (r : LogEntry) :
    shape.Fills 3 shape.blank
      [("timestamp_unix_nanos", natural r.timeNanos.toNat), ("severity", quote r.severity.name),
       ("body", quote r.body),
       ("trace_id", nullable (r.traceId.map fun t => natural t.toNat)),
       ("span_id", nullable (r.spanId.map fun s => natural s.toNat))]
      ⟨some r.timeNanos, some r.severity, some r.body, some r.traceId, some r.spanId, none⟩ :=
  .slot rfl rfl ((reads_natural64 r.timeNanos).mono (Nat.zero_le 3)) <|
    .slot rfl rfl ((reads_name r.severity.lookup_name).mono (Nat.zero_le 3)) <|
    .slot rfl rfl ((reads_quote r.body).mono (Nat.zero_le 3)) <|
    .slot rfl rfl ((reads_identifier reads_natural128 r.traceId).mono (Nat.zero_le 3)) <|
    .slot rfl rfl ((reads_identifier reads_natural64 r.spanId).mono (Nat.zero_le 3)) <| .nil _

theorem Span.exists_reads {s : Span} (finite : ∀ a ∈ s.attributes, a.value.isFinite = true) :
    ∃ attributes, List.Forall₂ Attribute.ReadsBack s.attributes attributes ∧
      Reads Span.decode 4 s.encode.toList { s with attributes := attributes } := by
  obtain ⟨attributes, back, reads⟩ := exists_reads_attributes finite
  refine ⟨attributes, back, ?_⟩
  exact Shape.Fills.reads (s.fills_front.append (.slot rfl rfl reads (.nil _))) rfl

theorem LogEntry.exists_reads {r : LogEntry}
    (finite : ∀ a ∈ r.attributes, a.value.isFinite = true) :
    ∃ attributes, List.Forall₂ Attribute.ReadsBack r.attributes attributes ∧
      Reads LogEntry.decode 4 r.encode.toList { r with attributes := attributes } := by
  obtain ⟨attributes, back, reads⟩ := exists_reads_attributes finite
  refine ⟨attributes, back, ?_⟩
  exact Shape.Fills.reads (r.fills_front.append (.slot rfl rfl reads (.nil _))) rfl

/-- A span or a log entry whose floats are finite is read back from its own text: every field is
the same, and so is every attribute, but that a float comes back as the number that the reader
takes its text for. -/
theorem records_read_back :
    (∀ s : Span, (∀ a ∈ s.attributes, a.value.isFinite = true) →
      ∃ attributes, List.Forall₂ Attribute.ReadsBack s.attributes attributes ∧
        decodeText Span.decode s.encode = .ok { s with attributes := attributes }) ∧
    (∀ r : LogEntry, (∀ a ∈ r.attributes, a.value.isFinite = true) →
      ∃ attributes, List.Forall₂ Attribute.ReadsBack r.attributes attributes ∧
        decodeText LogEntry.decode r.encode = .ok { r with attributes := attributes }) := by
  constructor
  · intro s finite
    obtain ⟨attributes, back, reads⟩ := Span.exists_reads finite
    exact ⟨attributes, back, reads.decodeText (by decide)⟩
  · intro r finite
    obtain ⟨attributes, back, reads⟩ := LogEntry.exists_reads finite
    exact ⟨attributes, back, reads.decodeText (by decide)⟩

/-- A span with the largest identifiers and an attribute of every kind. -/
def everyKind : Span where
  traceId := 0xffffffffffffffffffffffffffffffff
  spanId := 0xffffffffffffffff
  parentSpanId := 0
  name := "GET \"/\"\n"
  kind := .server
  status := .error
  startNanos := 0
  endNanos := 1
  attributes := [⟨"text", .text "1"⟩, ⟨"int", .int (-9223372036854775808)⟩,
    ⟨"float", .float (-0.0)⟩, ⟨"bool", .bool true⟩, ⟨"texts", .texts ["", "null"]⟩]

/-- A log entry outside any span. -/
def oneFloat : LogEntry where
  timeNanos := 0
  severity := .warn
  body := "\u0007"
  traceId := none
  spanId := some 1
  attributes := [⟨"float", .float 1e300⟩]

theorem records_read_back_of_two :
    (∃ attributes, List.Forall₂ Attribute.ReadsBack everyKind.attributes attributes ∧
      decodeText Span.decode everyKind.encode =
        .ok { everyKind with attributes := attributes }) ∧
    (∃ attributes, List.Forall₂ Attribute.ReadsBack oneFloat.attributes attributes ∧
      decodeText LogEntry.decode oneFloat.encode =
        .ok { oneFloat with attributes := attributes }) := by
  constructor
  · exact records_read_back.1 everyKind (by decide +kernel)
  · exact records_read_back.2 oneFloat (by decide +kernel)

end Telemetry
