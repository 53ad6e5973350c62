import Telemetry.Json.Value

set_option autoImplicit false

/-! # Reading values of a known shape

A decoder reads one value of its type from the front of a text, with room for a number of further
levels of lists and objects. A record type is described by its fields: it accepts an object with
the fields in any order, where unknown keys are passed over, or a list of all fields in their
order. The fields are collected in a draft, from which the finished record is made. -/

namespace Telemetry.Json

/-- Reads a value, given how much deeper lists and objects may go. -/
abbrev Decoder (α : Type) := Nat → List Char → Reading (α × List Char)

/-! ## Plain values -/

/-- A whole number of 64 bits. -/
def decodeNat64 : Decoder UInt64 := fun _ cs =>
  let accept (n : Number) (rest : List Char) : Reading (UInt64 × List Char) :=
    match n with
    | .natural n => .ok (n, rest)
    | .negative i => .error (.mismatch (.outOfRange (.integer i.toInt) "u64"))
    | .float x => .error (.mismatch (.wrongKind (.float x) "u64"))
  match skipBlank cs with
  | [] => .error .ended
  | '-' :: rest => do
    let (n, rest) ← readNumber false rest
    accept n rest
  | c :: rest =>
    if c.isDigit then do
      let (n, rest) ← readNumber true (c :: rest)
      accept n rest
    else unexpected "u64" (c :: rest)

/-- A whole number of 128 bits. -/
def decodeNat128 : Decoder (BitVec 128) := fun _ cs =>
  match skipBlank cs with
  | [] => .error .ended
  | cs => readLongNatural cs

/-- A string. -/
def decodeString : Decoder String := fun _ cs =>
  match skipBlank cs with
  | [] => .error .ended
  | '"' :: rest => do
    let (s, rest) ← readQuoted rest
    return (String.ofList s, rest)
  | cs => unexpected "a string" cs

/-- `null`, where nothing else is possible. -/
def decodeUnit : Decoder Unit := fun _ cs =>
  match skipBlank cs with
  | [] => .error .ended
  | 'n' :: rest => do return ((), ← readWord ['u', 'l', 'l'] rest)
  | cs => unexpected "unit" cs

/-- A value that may be `null`. -/
def decodeOption {α : Type} (d : Decoder α) : Decoder (Option α) := fun depth cs =>
  match skipBlank cs with
  | 'n' :: rest => do return (none, ← readWord ['u', 'l', 'l'] rest)
  | cs => do
    let (x, rest) ← d depth cs
    return (some x, rest)

/-- A list of any length. -/
def decodeList {α : Type} (d : Decoder α) : Decoder (List α) := fun depth cs =>
  match skipBlank cs with
  | [] => .error .ended
  | '[' :: rest =>
    match depth with
    | 0 => .error .malformed
    | depth + 1 => readElements (d depth) rest.length true rest
  | cs => unexpected "a sequence" cs

/-! ## Names -/

/-- One of a fixed set of names. -/
def readName {α : Type} (names : List (String × α)) (cs : List Char) :
    Reading (α × List Char) := do
  let (s, rest) ← readQuoted cs
  let name := String.ofList s
  match names.lookup name with
  | some x => return (x, rest)
  | none => throw (.mismatch (.unknownName name (names.map Prod.fst)))

/-- A value given by its name: the name alone, or an object with the name as its only key and
`null` as the value. -/
def decodeName {α : Type} (names : List (String × α)) : Decoder α := fun depth cs =>
  match skipBlank cs with
  | [] => .error .ended
  | '"' :: rest => readName names rest
  | '{' :: rest =>
    match depth with
    | 0 => .error .malformed
    | depth + 1 => do
      let (x, rest) ← match skipBlank rest with
        | [] => throw .ended
        | '"' :: rest => readName names rest
        | _ => throw .malformed
      let rest ← readColon rest
      let ((), rest) ← decodeUnit depth rest
      return (x, ← endObject rest)
  | _ => .error .malformed

/-! ## Records -/

/-- A field of a record whose fields are collected in drafts of type `δ`. -/
structure Field (δ : Type) where
  name : String
  /-- Whether the draft has the field already. -/
  isSet : δ → Bool
  /-- Reads the field's value into the draft. -/
  decode : δ → Decoder δ

/-- A field whose place in the draft is empty until it is read. -/
def Field.slot {δ α : Type} (name : String) (get : δ → Option α) (set : δ → α → δ)
    (d : Decoder α) : Field δ where
  name := name
  isSet := fun draft => (get draft).isSome
  decode := fun draft depth cs => (d depth cs).map fun p => (set draft p.1, p.2)

/-- A field of a finished draft. -/
def required {α : Type} (name : String) (x : Option α) : Except Mismatch α :=
  match x with
  | some x => .ok x
  | none => .error (.missingField name)

/-- A record type: its name, its fields in order, and how a draft becomes a record. -/
structure Shape (δ α : Type) where
  name : String
  fields : List (Field δ)
  blank : δ
  finish : δ → Except Mismatch α

namespace Shape

variable {δ α : Type}

/-- How the record is called where something else was found. -/
def expected (s : Shape δ α) : String :=
  "struct " ++ s.name

/-- Reads fields from a list, starting with field number `i`. -/
def readListed (s : Shape δ α) (depth : Nat) :
    List (Field δ) → Nat → δ → List Char → Reading (δ × List Char)
  | [], _, draft, cs => .ok (draft, cs)
  | f :: fs, i, draft, cs => do
    match ← nextElement (i == 0) cs with
    | none =>
      throw (.mismatch (.tooShort i
        (s.expected ++ " with " ++ Nat.repr s.fields.length ++ " elements")))
    | some cs =>
      let (draft, cs) ← f.decode draft depth cs
      readListed s depth fs (i + 1) draft cs

/-- Reads an entry of an object into the draft, from behind the opening quote of its key. -/
def readEntry (s : Shape δ α) (depth : Nat) (draft : δ) (cs : List Char) :
    Reading (δ × List Char) := do
  let (key, cs) ← readQuoted cs
  let name := String.ofList key
  match s.fields.find? fun f => f.name == name with
  | some f =>
    if f.isSet draft then throw (.mismatch (.duplicateField name))
    else f.decode draft depth (← readColon cs)
  | none => return (draft, ← skipValue (← readColon cs))

/-- Reads the entries of an object up to its end, whose bracket is left standing. Every entry
takes a character, so `fuel` need not exceed the length of the text. -/
def readEntries (s : Shape δ α) (depth : Nat) :
    Nat → Bool → δ → List Char → Reading (δ × List Char)
  | 0, _, _, _ => .error .ended
  | fuel + 1, first, draft, cs => do
    match ← nextKey first cs with
    | none => return (draft, cs)
    | some cs =>
      let (draft, cs) ← s.readEntry depth draft cs
      readEntries s depth fuel false draft cs

/-- Makes the record, or reports the first field that is missing. -/
def complete (s : Shape δ α) (draft : δ) : Reading α :=
  (s.finish draft).mapError .mismatch

/-- Reads a record. -/
def decode (s : Shape δ α) : Decoder α := fun depth cs =>
  match skipBlank cs with
  | [] => .error .ended
  | '[' :: rest =>
    match depth with
    | 0 => .error .malformed
    | depth + 1 => do
      let (draft, rest) ← s.readListed depth s.fields 0 s.blank rest
      let x ← s.complete draft
      return (x, ← endArray rest)
  | '{' :: rest =>
    match depth with
    | 0 => .error .malformed
    | depth + 1 => do
      let (draft, rest) ← s.readEntries depth rest.length true s.blank rest
      let x ← s.complete draft
      return (x, ← endObject rest)
  | cs => unexpected s.expected cs

end Shape

/-! ## Whole texts -/

/-- Reads a text that holds one value and nothing else but blanks. -/
def decodeText {α : Type} (d : Decoder α) (text : String) : Reading α := do
  let (x, rest) ← d depthLimit text.toList
  match skipBlank rest with
  | [] => return x
  | _ => throw .malformed

end Telemetry.Json
