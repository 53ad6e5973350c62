import Telemetry.Record.Attribute

set_option autoImplicit false

/-! # Spans

A span is a finished operation: its identifiers, its name, kind and status, its start and end in
nanoseconds since 1970, and its attributes. -/

namespace Telemetry

/-- The 128-bit identifier of a trace. -/
abbrev TraceId := BitVec 128

/-- What an operation ended with. -/
inductive SpanStatus where
  | ok
  | error
  | unset
deriving DecidableEq, Inhabited

/-- The part an operation plays in an exchange. -/
inductive SpanKind where
  | internal
  | server
  | client
  | producer
  | consumer
deriving DecidableEq

namespace SpanStatus

/-- The status of a span that has not ended. -/
def default : SpanStatus := .unset

/-- The statuses by name. -/
def names : List (String × SpanStatus) :=
  [("Ok", .ok), ("Error", .error), ("Unset", .unset)]

/-- The name of a status. -/
def name : SpanStatus → String
  | .ok => "Ok"
  | .error => "Error"
  | .unset => "Unset"

/-- Reads a status. -/
def decode : Json.Decoder SpanStatus :=
  Json.decodeName names

end SpanStatus

namespace SpanKind

/-- The kind of a span that is given none. -/
def default : SpanKind := .internal

/-- The kinds by name. -/
def names : List (String × SpanKind) :=
  [("Internal", .internal), ("Server", .server), ("Client", .client), ("Producer", .producer),
   ("Consumer", .consumer)]

/-- The name of a kind. -/
def name : SpanKind → String
  | .internal => "Internal"
  | .server => "Server"
  | .client => "Client"
  | .producer => "Producer"
  | .consumer => "Consumer"

/-- Reads a kind. -/
def decode : Json.Decoder SpanKind :=
  Json.decodeName names

end SpanKind

/-- A finished operation. -/
structure Span where
  traceId : TraceId
  spanId : UInt64
  /-- The span that this one is part of; zero for a root. -/
  parentSpanId : UInt64
  name : String
  kind : SpanKind
  status : SpanStatus
  startNanos : UInt64
  endNanos : UInt64
  attributes : List Attribute

namespace Span

/-- Equality field by field. -/
def same (a b : Span) : Bool :=
  a.traceId == b.traceId && a.spanId == b.spanId && a.parentSpanId == b.parentSpanId &&
    a.name == b.name && a.kind == b.kind && a.status == b.status &&
    a.startNanos == b.startNanos && a.endNanos == b.endNanos && a.attributes == b.attributes

instance : BEq Span := ⟨same⟩

/-! ## Life of a span -/

/-- A span that starts now. -/
def start (traceId : TraceId) (spanId parentSpanId : UInt64) (name : String) (kind : SpanKind)
    (now : UInt64) : Span where
  traceId := traceId
  spanId := spanId
  parentSpanId := parentSpanId
  name := name
  kind := kind
  status := .unset
  startNanos := now
  endNanos := now
  attributes := []

/-- Adds an attribute behind those that are there. -/
def withAttribute (s : Span) (key : String) (value : AttributeValue) : Span :=
  { s with attributes := s.attributes ++ [⟨key, value⟩] }

/-- Ends the span now, but never before it started. -/
def finish (s : Span) (status : SpanStatus) (now : UInt64) : Span :=
  { s with endNanos := max now s.startNanos, status := status }

/-- How long the operation took; zero if the end lies before the start. -/
def durationNanos (s : Span) : UInt64 :=
  if s.startNanos ≤ s.endNanos then s.endNanos - s.startNanos else 0

/-- Whether the span has no parent. -/
def isRoot (s : Span) : Bool :=
  s.parentSpanId == 0

/-! ## Texts -/

/-- The span in diagnostics. -/
def debug (s : Span) : String :=
  Text.braced "SpanData"
    [("trace_id", Nat.repr s.traceId.toNat),
     ("span_id", Nat.repr s.spanId.toNat),
     ("parent_span_id", Nat.repr s.parentSpanId.toNat),
     ("name", Text.quoted s.name),
     ("kind", s.kind.name),
     ("status", s.status.name),
     ("start_time_unix_nanos", Nat.repr s.startNanos.toNat),
     ("end_time_unix_nanos", Nat.repr s.endNanos.toNat),
     ("attributes", debugAttributes s.attributes)]

/-- The span in JSON. -/
def encode (s : Span) : String :=
  Json.object
    [("trace_id", Json.natural s.traceId.toNat),
     ("span_id", Json.natural s.spanId.toNat),
     ("parent_span_id", Json.natural s.parentSpanId.toNat),
     ("name", Json.quote s.name),
     ("kind", Json.quote s.kind.name),
     ("status", Json.quote s.status.name),
     ("start_time_unix_nanos", Json.natural s.startNanos.toNat),
     ("end_time_unix_nanos", Json.natural s.endNanos.toNat),
     ("attributes", encodeAttributes s.attributes)]

/-! ## Reading -/

/-- A span being read. -/
structure Draft where
  traceId : Option TraceId
  spanId : Option UInt64
  parentSpanId : Option UInt64
  name : Option String
  kind : Option SpanKind
  status : Option SpanStatus
  startNanos : Option UInt64
  endNanos : Option UInt64
  attributes : Option (List Attribute)

/-- How a span is read. -/
def shape : Json.Shape Draft Span where
  name := "SpanData"
  fields :=
    [.slot "trace_id" Draft.traceId (fun d x => { d with traceId := some x }) Json.decodeNat128,
     .slot "span_id" Draft.spanId (fun d x => { d with spanId := some x }) Json.decodeNat64,
     .slot "parent_span_id" Draft.parentSpanId (fun d x => { d with parentSpanId := some x })
       Json.decodeNat64,
     .slot "name" Draft.name (fun d x => { d with name := some x }) Json.decodeString,
     .slot "kind" Draft.kind (fun d x => { d with kind := some x }) SpanKind.decode,
     .slot "status" Draft.status (fun d x => { d with status := some x }) SpanStatus.decode,
     .slot "start_time_unix_nanos" Draft.startNanos (fun d x => { d with startNanos := some x })
       Json.decodeNat64,
     .slot "end_time_unix_nanos" Draft.endNanos (fun d x => { d with endNanos := some x })
       Json.decodeNat64,
     .slot "attributes" Draft.attributes (fun d x => { d with attributes := some x })
       (Json.decodeList Attribute.decode)]
  blank := ⟨none, none, none, none, none, none, none, none, none⟩
  finish := fun d => do
    return {
      traceId := ← Json.required "trace_id" d.traceId
      spanId := ← Json.required "span_id" d.spanId
      parentSpanId := ← Json.required "parent_span_id" d.parentSpanId
      name := ← Json.required "name" d.name
      kind := ← Json.required "kind" d.kind
      status := ← Json.required "status" d.status
      startNanos := ← Json.required "start_time_unix_nanos" d.startNanos
      endNanos := ← Json.required "end_time_unix_nanos" d.endNanos
      attributes := ← Json.required "attributes" d.attributes }

/-- Reads a span. -/
def decode : Json.Decoder Span :=
  shape.decode

end Span

end Telemetry
