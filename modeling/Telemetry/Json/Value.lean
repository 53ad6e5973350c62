import Telemetry.Json.Number
import Telemetry.Json.Quoted

set_option autoImplicit false

/-! # Reading values

The walk along a text: blanks, the punctuation of lists and objects, and whole values. Lists and
objects that are kept may be nested 127 deep; values that are passed over have no such limit.
Every step answers with what is left of the text, so the first problem in the text is the one
that is reported. -/

namespace Telemetry.Json

/-! ## Blanks and words -/

/-- The four blanks of JSON. -/
def isBlank (c : Char) : Bool :=
  c == ' ' || c == '\n' || c == '\t' || c == '\r'

/-- The text from its first character that is no blank. -/
def skipBlank (cs : List Char) : List Char :=
  cs.dropWhile isBlank

/-- Passes over the given word. -/
def readWord : List Char → List Char → Reading (List Char)
  | [], cs => .ok cs
  | _ :: _, [] => .error .ended
  | w :: ws, c :: cs => if c = w then readWord ws cs else .error .malformed

/-! ## Lists and objects -/

/-- How deep lists and objects that are kept may be nested. -/
def depthLimit : Nat := 127

/-- Goes to the first element of a list, or to the next one after an element: `none` at the end
of the list. -/
def nextElement (first : Bool) (cs : List Char) : Reading (Option (List Char)) :=
  match skipBlank cs with
  | [] => .error .ended
  | ']' :: _ => .ok none
  | c :: rest =>
    if first then .ok (some (c :: rest))
    else if c = ',' then
      match skipBlank rest with
      | [] => .error .ended
      | ']' :: _ => .error .malformed
      | next => .ok (some next)
    else .error .malformed

/-- Leaves a list; nothing but its end may stand here. -/
def endArray (cs : List Char) : Reading (List Char) :=
  match skipBlank cs with
  | [] => .error .ended
  | ']' :: rest => .ok rest
  | _ => .error .malformed

/-- Goes behind the opening quote of the first key of an object, or of the next one after an
entry: `none` at the end of the object. -/
def nextKey (first : Bool) (cs : List Char) : Reading (Option (List Char)) :=
  match skipBlank cs with
  | [] => .error .ended
  | '}' :: _ => .ok none
  | c :: rest =>
    if first then
      if c = '"' then .ok (some rest) else .error .malformed
    else if c = ',' then
      match skipBlank rest with
      | [] => .error .ended
      | '"' :: rest => .ok (some rest)
      | _ => .error .malformed
    else .error .malformed

/-- Passes over the colon behind a key. -/
def readColon (cs : List Char) : Reading (List Char) :=
  match skipBlank cs with
  | [] => .error .ended
  | ':' :: rest => .ok rest
  | _ => .error .malformed

/-- Leaves an object; nothing but its end may stand here. -/
def endObject (cs : List Char) : Reading (List Char) :=
  match skipBlank cs with
  | [] => .error .ended
  | '}' :: rest => .ok rest
  | _ => .error .malformed

/-- Reads the elements of a list up to its end. Every element takes a character of the text, so
`fuel` need not exceed the length of the text. -/
def readElements {α : Type} (element : List Char → Reading (α × List Char)) :
    Nat → Bool → List Char → Reading (List α × List Char)
  | 0, _, _ => .error .ended
  | fuel + 1, first, cs => do
    match ← nextElement first cs with
    | none => return ([], ← endArray cs)
    | some cs =>
      let (x, cs) ← element cs
      let (xs, cs) ← readElements element fuel false cs
      return (x :: xs, cs)

/-- Reads the entries of an object up to its end, in the same way. -/
def readEntries {α : Type} (entry : List Char → Reading (α × List Char)) :
    Nat → Bool → List Char → Reading (List α × List Char)
  | 0, _, _ => .error .ended
  | fuel + 1, first, cs => do
    match ← nextKey first cs with
    | none => return ([], ← endObject cs)
    | some cs =>
      let (x, cs) ← entry cs
      let (xs, cs) ← readEntries entry fuel false cs
      return (x :: xs, cs)

/-! ## What stands here -/

/-- The value at the front of a text, far enough to name it in a message. -/
def foundAt (cs : List Char) : Reading Found :=
  match cs with
  | 'n' :: rest => do let _ ← readWord ['u', 'l', 'l'] rest; return .null
  | 't' :: rest => do let _ ← readWord ['r', 'u', 'e'] rest; return .boolean true
  | 'f' :: rest => do let _ ← readWord ['a', 'l', 's', 'e'] rest; return .boolean false
  | '"' :: rest => do return .string (String.ofList (← readQuoted rest).1)
  | '[' :: _ => .ok .array
  | '{' :: _ => .ok .object
  | '-' :: rest => do return (← readNumber false rest).1.found
  | c :: rest =>
    if c.isDigit then do return (← readNumber true (c :: rest)).1.found else .error .malformed
  | [] => .error .malformed

/-- Reports that something else was expected here. -/
def unexpected {α : Type} (expected : String) (cs : List Char) : Reading α := do
  throw (.mismatch (.wrongKind (← foundAt cs) expected))

/-! ## Values that are kept -/

/-- Any JSON value. -/
inductive Value where
  | null
  | boolean (b : Bool)
  | number (n : Number)
  | string (s : String)
  | array (items : List Value)
  | object (entries : List (String × Value))

/-- Reads any value, with room for `depth` more levels of lists and objects. -/
def readValue : Nat → List Char → Reading (Value × List Char)
  | depth, cs =>
    match skipBlank cs with
    | [] => .error .ended
    | 'n' :: rest => do return (.null, ← readWord ['u', 'l', 'l'] rest)
    | 't' :: rest => do return (.boolean true, ← readWord ['r', 'u', 'e'] rest)
    | 'f' :: rest => do return (.boolean false, ← readWord ['a', 'l', 's', 'e'] rest)
    | '"' :: rest => do
      let (s, rest) ← readQuoted rest
      return (.string (String.ofList s), rest)
    | '-' :: rest => do
      let (n, rest) ← readNumber false rest
      return (.number n, rest)
    | '[' :: rest =>
      match depth with
      | 0 => .error .malformed
      | depth + 1 => do
        let (xs, rest) ← readElements (readValue depth) rest.length true rest
        return (.array xs, rest)
    | '{' :: rest =>
      match depth with
      | 0 => .error .malformed
      | depth + 1 => do
        let entry (cs : List Char) : Reading ((String × Value) × List Char) := do
          let (key, cs) ← readQuoted cs
          let cs ← readColon cs
          let (x, cs) ← readValue depth cs
          return ((String.ofList key, x), cs)
        let (xs, rest) ← readEntries entry rest.length true rest
        return (.object xs, rest)
    | c :: rest =>
      if c.isDigit then do
        let (n, rest) ← readNumber true (c :: rest)
        return (.number n, rest)
      else .error .malformed

/-! ## Values that are passed over -/

/-- Whether a list or an object encloses what is passed over. -/
inductive Frame where
  | array
  | object
deriving DecidableEq

/-- What is expected next while passing over a value. -/
inductive Awaiting where
  /-- A value. -/
  | value
  /-- The first element of the innermost list or object, or its end. -/
  | firstElement
  /-- A comma, or the end of the innermost list or object. -/
  | separator

/-- Passes over a key and its colon. -/
def skipKey (cs : List Char) : Reading (List Char) :=
  match skipBlank cs with
  | [] => .error .ended
  | '"' :: rest => do readColon (← skipQuoted rest)
  | _ => .error .malformed

/-- Goes to the next value in a list or an object. -/
def enterElement (frame : Frame) (cs : List Char) : Reading (List Char) :=
  match frame with
  | .array => .ok cs
  | .object => skipKey cs

/-- Passes over a value, however deep it is; `open` lists what encloses the current place,
innermost first. Every step but the last takes a character, so `fuel` need not exceed twice the
length of the text. -/
def skipOver : Nat → Awaiting → List Frame → List Char → Reading (List Char)
  | 0, _, _, _ => .error .ended
  | fuel + 1, .value, frames, cs =>
    match skipBlank cs with
    | [] => .error .ended
    | 'n' :: rest => do skipOver fuel .separator frames (← readWord ['u', 'l', 'l'] rest)
    | 't' :: rest => do skipOver fuel .separator frames (← readWord ['r', 'u', 'e'] rest)
    | 'f' :: rest => do skipOver fuel .separator frames (← readWord ['a', 'l', 's', 'e'] rest)
    | '"' :: rest => do skipOver fuel .separator frames (← skipQuoted rest)
    | '-' :: rest => do skipOver fuel .separator frames (← skipNumber rest)
    | '[' :: rest => skipOver fuel .firstElement (.array :: frames) rest
    | '{' :: rest => skipOver fuel .firstElement (.object :: frames) rest
    | c :: rest =>
      if c.isDigit then do skipOver fuel .separator frames (← skipNumber (c :: rest))
      else .error .malformed
  | _ + 1, .firstElement, [], _ => .error .malformed
  | fuel + 1, .firstElement, frame :: frames, cs =>
    match skipBlank cs, frame with
    | [], _ => .error .ended
    | ']' :: rest, .array => skipOver fuel .separator frames rest
    | '}' :: rest, .object => skipOver fuel .separator frames rest
    | rest, _ => do skipOver fuel .value (frame :: frames) (← enterElement frame rest)
  | _ + 1, .separator, [], cs => .ok cs
  | fuel + 1, .separator, frame :: frames, cs =>
    match skipBlank cs, frame with
    | [], _ => .error .ended
    | ']' :: rest, .array => skipOver fuel .separator frames rest
    | '}' :: rest, .object => skipOver fuel .separator frames rest
    | ',' :: rest, _ => do skipOver fuel .value (frame :: frames) (← enterElement frame rest)
    | _, _ => .error .malformed

/-- Passes over a value. -/
def skipValue (cs : List Char) : Reading (List Char) :=
  skipOver (2 * cs.length + 2) .value [] cs

end Telemetry.Json
