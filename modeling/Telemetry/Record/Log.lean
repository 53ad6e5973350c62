import Telemetry.Record.Span

set_option autoImplicit false

/-! # Log entries

A log entry is a text with a time, a severity and attributes. It may name the trace and the span
that it was written in. -/

namespace Telemetry

/-- How grave an entry is. -/
inductive Severity where
  | trace
  | debug
  | info
  | warn
  | error
  | fatal
deriving DecidableEq

namespace Severity

/-- The severity of an entry that is given none. -/
def default : Severity := .info

/-- The number of a severity: the first of the four numbers that each level spans. -/
def number : Severity → Nat
  | .trace => 1
  | .debug => 5
  | .info => 9
  | .warn => 13
  | .error => 17
  | .fatal => 21

/-- Severities are ordered by their numbers. -/
instance : Ord Severity := ⟨fun a b => compare a.number b.number⟩

/-- The severities by name. -/
def names : List (String × Severity) :=
  [("Trace", .trace), ("Debug", .debug), ("Info", .info), ("Warn", .warn), ("Error", .error),
   ("Fatal", .fatal)]

/-- The name of a severity. -/
def name : Severity → String
  | .trace => "Trace"
  | .debug => "Debug"
  | .info => "Info"
  | .warn => "Warn"
  | .error => "Error"
  | .fatal => "Fatal"

/-- Reads a severity. -/
def decode : Json.Decoder Severity :=
  Json.decodeName names

end Severity

/-- One entry of a log. -/
structure LogEntry where
  timeNanos : UInt64
  severity : Severity
  body : String
  traceId : Option TraceId
  spanId : Option UInt64
  attributes : List Attribute

namespace LogEntry

/-- Equality field by field. -/
def same (a b : LogEntry) : Bool :=
  a.timeNanos == b.timeNanos && a.severity == b.severity && a.body == b.body &&
    a.traceId == b.traceId && a.spanId == b.spanId && a.attributes == b.attributes

instance : BEq LogEntry := ⟨same⟩

/-- An entry written now, outside any span. -/
def make (severity : Severity) (body : String) (now : UInt64) : LogEntry where
  timeNanos := now
  severity := severity
  body := body
  traceId := none
  spanId := none
  attributes := []

/-- Names the span that the entry was written in. -/
def withSpanContext (r : LogEntry) (traceId : TraceId) (spanId : UInt64) : LogEntry :=
  { r with traceId := some traceId, spanId := some spanId }

/-- Adds an attribute behind those that are there. -/
def withAttribute (r : LogEntry) (key : String) (value : AttributeValue) : LogEntry :=
  { r with attributes := r.attributes ++ [⟨key, value⟩] }

/-! ## Texts -/

/-- The entry in diagnostics. -/
def debug (r : LogEntry) : String :=
  Text.braced "LogRecord"
    [("timestamp_unix_nanos", Nat.repr r.timeNanos.toNat),
     ("severity", r.severity.name),
     ("body", Text.quoted r.body),
     ("trace_id", Text.optional (r.traceId.map fun t => Nat.repr t.toNat)),
     ("span_id", Text.optional (r.spanId.map fun s => Nat.repr s.toNat)),
     ("attributes", debugAttributes r.attributes)]

/-- The entry in JSON. -/
def encode (r : LogEntry) : String :=
  Json.object
    [("timestamp_unix_nanos", Json.natural r.timeNanos.toNat),
     ("severity", Json.quote r.severity.name),
     ("body", Json.quote r.body),
     ("trace_id", Json.nullable (r.traceId.map fun t => Json.natural t.toNat)),
     ("span_id", Json.nullable (r.spanId.map fun s => Json.natural s.toNat)),
     ("attributes", encodeAttributes r.attributes)]

/-! ## Reading -/

/-- An entry being read. -/
structure Draft where
  timeNanos : Option UInt64
  severity : Option Severity
  body : Option String
  traceId : Option (Option TraceId)
  spanId : Option (Option UInt64)
  attributes : Option (List Attribute)

/-- How an entry is read. The two identifiers may be left out. -/
def shape : Json.Shape Draft LogEntry where
  name := "LogRecord"
  fields :=
    [.slot "timestamp_unix_nanos" Draft.timeNanos (fun d x => { d with timeNanos := some x })
       Json.decodeNat64,
     .slot "severity" Draft.severity (fun d x => { d with severity := some x }) Severity.decode,
     .slot "body" Draft.body (fun d x => { d with body := some x }) Json.decodeString,
     .slot "trace_id" Draft.traceId (fun d x => { d with traceId := some x })
       (Json.decodeOption Json.decodeNat128),
     .slot "span_id" Draft.spanId (fun d x => { d with spanId := some x })
       (Json.decodeOption Json.decodeNat64),
     .slot "attributes" Draft.attributes (fun d x => { d with attributes := some x })
       (Json.decodeList Attribute.decode)]
  blank := ⟨none, none, none, none, none, none⟩
  finish := fun d => do
    return {
      timeNanos := ← Json.required "timestamp_unix_nanos" d.timeNanos
      severity := ← Json.required "severity" d.severity
      body := ← Json.required "body" d.body
      traceId := d.traceId.getD none
      spanId := d.spanId.getD none
      attributes := ← Json.required "attributes" d.attributes }

/-- Reads an entry. -/
def decode : Json.Decoder LogEntry :=
  shape.decode

end LogEntry

end Telemetry
