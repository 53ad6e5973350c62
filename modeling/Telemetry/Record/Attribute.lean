import Telemetry.Json.Decode
import Telemetry.Text.Shape

set_option autoImplicit false

/-! # Attributes

An attribute is a key with a value of one of five kinds. In JSON the kind is not written: a value
is read as the first kind that fits it, in the order text, whole number, float, truth value, list
of texts. So every number that does not fit 64 signed bits is a float, and `null`, objects and
lists of anything but texts are no attribute values. -/

namespace Telemetry

/-- The value of an attribute. -/
inductive AttributeValue where
  | text (s : String)
  | int (i : Int64)
  | float (x : Float)
  | bool (b : Bool)
  | texts (items : List String)

/-- A key with its value. -/
structure Attribute where
  key : String
  value : AttributeValue

/-- How diagnostics write a float: positional from 0.0001 up to below 10^16, an exponent without a
plus sign otherwise, and the larger one of two equally near shortest decimals. -/
def diagnosticFloat : Decimal.Format where
  plainFrom := -4
  plainBelow := 16
  exponentPlus := false
  tie := .up
  nan := "NaN"
  infinity := "inf"
  negInfinity := "-inf"

namespace AttributeValue

/-- Equality of values: floats compare as numbers, so NaN differs from itself and the two zeros
are equal. -/
def same : AttributeValue → AttributeValue → Bool
  | .text a, .text b => a == b
  | .int a, .int b => a == b
  | .float a, .float b => a == b
  | .bool a, .bool b => a == b
  | .texts a, .texts b => a == b
  | _, _ => false

instance : BEq AttributeValue := ⟨same⟩

/-- The name of the kind. -/
def kindName : AttributeValue → String
  | .text _ => "String"
  | .int _ => "Int"
  | .float _ => "Float"
  | .bool _ => "Bool"
  | .texts _ => "Array"

/-- The value in diagnostics. -/
def debug (v : AttributeValue) : String :=
  Text.applied v.kindName <| List.singleton <|
    match v with
    | .text s => Text.quoted s
    | .int i => Json.integer i.toInt
    | .float x => diagnosticFloat.render x
    | .bool b => Json.boolean b
    | .texts items => Text.bracketed (items.map Text.quoted)

/-- The value in JSON. -/
def encode : AttributeValue → String
  | .text s => Json.quote s
  | .int i => Json.integer i.toInt
  | .float x => Json.float x
  | .bool b => Json.boolean b
  | .texts items => Json.array (items.map Json.quote)

/-- A list of texts, if every item is one. -/
def textsOf : List Json.Value → Option (List String)
  | [] => some []
  | .string s :: rest => (textsOf rest).map (s :: ·)
  | _ :: _ => none

/-- A number: whole if it fits 64 signed bits, else a float. -/
def ofNumber : Json.Number → AttributeValue
  | .natural n => if n.toNat < UInt64.size / 2 then .int n.toInt64 else .float n.toFloat
  | .negative i => .int i
  | .float x => .float x

/-- The attribute value that a JSON value stands for. -/
def ofValue? : Json.Value → Option AttributeValue
  | .string s => some (.text s)
  | .number n => some (ofNumber n)
  | .boolean b => some (.bool b)
  | .array items => (textsOf items).map .texts
  | .null => none
  | .object _ => none

/-- Reads a value. -/
def decode : Json.Decoder AttributeValue := fun depth cs => do
  let (v, rest) ← Json.readValue depth cs
  match ofValue? v with
  | some x => return (x, rest)
  | none => throw (.mismatch (.noAlternative "AttributeValue"))

end AttributeValue

namespace Attribute

instance : BEq Attribute := ⟨fun a b => a.key == b.key && a.value == b.value⟩

/-- The attribute in diagnostics. -/
def debug (a : Attribute) : String :=
  Text.braced "KeyValue" [("key", Text.quoted a.key), ("value", a.value.debug)]

/-- The attribute in JSON. -/
def encode (a : Attribute) : String :=
  Json.object [("key", Json.quote a.key), ("value", a.value.encode)]

/-- An attribute being read. -/
structure Draft where
  key : Option String
  value : Option AttributeValue

/-- How an attribute is read. -/
def shape : Json.Shape Draft Attribute where
  name := "KeyValue"
  fields :=
    [.slot "key" Draft.key (fun d x => { d with key := some x }) Json.decodeString,
     .slot "value" Draft.value (fun d x => { d with value := some x }) AttributeValue.decode]
  blank := ⟨none, none⟩
  finish := fun d => do
    return ⟨← Json.required "key" d.key, ← Json.required "value" d.value⟩

/-- Reads an attribute. -/
def decode : Json.Decoder Attribute :=
  shape.decode

end Attribute

/-- The attributes of a record in diagnostics. -/
def debugAttributes (attributes : List Attribute) : String :=
  Text.bracketed (attributes.map Attribute.debug)

/-- The attributes of a record in JSON. -/
def encodeAttributes (attributes : List Attribute) : String :=
  Json.array (attributes.map Attribute.encode)

end Telemetry
