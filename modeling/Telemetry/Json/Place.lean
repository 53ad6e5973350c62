import Telemetry.Decimal.Whole

set_option autoImplicit false

/-! # Places in messages

A message about a text may end in the line and the column of the problem. A message that a record
gives when it cannot be written is read in the same way: if it ends in a place, the place is cut
off, and it is written again only if it names a line. A line is one from the first on, so line
zero stands for no place at all. -/

namespace Telemetry.Json

/-- A line and a column. -/
structure Place where
  line : UInt64
  column : UInt64

/-- The word in front of a line. -/
def lineWord : List Char := [' ', 'a', 't', ' ', 'l', 'i', 'n', 'e', ' ']

/-- The word between a line and a column. -/
def columnWord : List Char := [' ', 'c', 'o', 'l', 'u', 'm', 'n', ' ']

/-- What follows a word at the front of a text. -/
def dropWord (word cs : List Char) : Option (List Char) :=
  if word.isPrefixOf cs then some (cs.drop word.length) else none

/-- The parts of a text before and behind the last place where a word stands. -/
def splitLast (word : List Char) : List Char → Option (List Char × List Char)
  | [] => none
  | c :: cs =>
    match splitLast word cs with
    | some (front, back) => some (c :: front, back)
    | none => (dropWord word (c :: cs)).map fun back => ([], back)

/-- The place that a text consists of: a line, the word and a column, both whole numbers of 64
bits without a sign. -/
def Place.ofChars? (cs : List Char) : Option Place := do
  let (line, rest) := cs.span Char.isDigit
  let column ← dropWord columnWord rest
  if column.all Char.isDigit then
    return ⟨← Decimal.word? line, ← Decimal.word? column⟩
  else none

/-- A place at the end of a message; nothing for line zero. -/
def Place.suffix (p : Place) : String :=
  if p.line = 0 then ""
  else " at line " ++ Nat.repr p.line.toNat ++ " column " ++ Nat.repr p.column.toNat

/-- A message whose place, if it ends in one, is read and written again. -/
def normalPlace (message : String) : String :=
  match splitLast lineWord message.toList with
  | none => message
  | some (front, back) =>
    match Place.ofChars? back with
    | none => message
    | some p => String.ofList front ++ p.suffix

end Telemetry.Json
