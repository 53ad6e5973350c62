import Mathlib.Data.List.Forall2
import Telemetry.Json.Decode

set_option autoImplicit false

/-! # Texts that are read as values

A decoder reads a text as a value if it finds the value wherever the text may stand: in front of
anything that can follow a value, and with enough room for the lists and objects in it. Compact
texts are put together from the texts of their parts, so what is read from a list or a whole text
follows from what is read from the parts. -/

namespace Telemetry.Json

variable {α : Type}

/-- What may stand behind a value: nothing, or what goes on with or ends a list or an object. -/
def Delimited (rest : List Char) : Prop :=
  ∀ c ∈ rest.head?, c = ',' ∨ c = ']' ∨ c = '}'

/-- A text begins where a value can begin: with no blank and not with the end of a list. -/
def Starts (text : List Char) : Prop :=
  ∃ c cs, text = c :: cs ∧ isBlank c = false ∧ c ≠ ']'

/-- The decoder reads the text as the value, given room for some levels of lists and objects. -/
structure Reads (d : Decoder α) (levels : Nat) (text : List Char) (x : α) : Prop where
  starts : Starts text
  read : ∀ {depth rest}, levels ≤ depth → Delimited rest → d depth (text ++ rest) = .ok (x, rest)

theorem skipBlank_cons {c : Char} (h : isBlank c = false) (cs : List Char) :
    skipBlank (c :: cs) = c :: cs := by
  simp [skipBlank, h]

theorem Starts.skipBlank {text : List Char} (h : Starts text) (rest : List Char) :
    skipBlank (text ++ rest) = text ++ rest := by
  obtain ⟨c, cs, rfl, visible, -⟩ := h
  exact skipBlank_cons visible (cs ++ rest)

theorem Delimited.nil : Delimited [] := by
  simp [Delimited]

theorem Delimited.cons {c : Char} (h : c = ',' ∨ c = ']' ∨ c = '}') (cs : List Char) :
    Delimited (c :: cs) := by
  simpa [Delimited] using h

/-- Room for more levels does no harm. -/
theorem Reads.mono {d : Decoder α} {levels levels' : Nat} {text : List Char} {x : α}
    (h : Reads d levels text x) (le : levels ≤ levels') : Reads d levels' text x where
  starts := h.starts
  read := fun room ends => h.read (Nat.le_trans le room) ends

/-! ## Whole texts -/

theorem Reads.decodeText {d : Decoder α} {levels : Nat} {text : String} {x : α}
    (h : Reads d levels text.toList x) (room : levels ≤ depthLimit) :
    decodeText d text = .ok x := by
  have read := h.read room .nil
  rw [List.append_nil] at read
  rw [Json.decodeText, read]
  rfl

/-! ## Values that may be missing -/

theorem reads_null (d : Decoder α) : Reads (decodeOption d) 0 "null".toList none where
  starts := ⟨'n', ['u', 'l', 'l'], by decide, by decide, by decide⟩
  read := by
    intro depth rest _ _
    rfl

theorem Reads.present {d : Decoder α} {levels : Nat} {text : List Char} {x : α}
    (h : Reads d levels text x) (named : text.head? ≠ some 'n') :
    Reads (decodeOption d) levels text (some x) where
  starts := h.starts
  read := by
    intro depth rest room ends
    rw [decodeOption, h.starts.skipBlank]
    split
    · rename_i null
      obtain ⟨c, cs, rfl, -, -⟩ := h.starts
      cases null
      exact absurd rfl named
    · rw [h.read room ends]
      rfl

/-! ## Lists -/

theorem intercalate_comma (text : List Char) (texts : List (List Char)) :
    [','].intercalate (text :: texts) = text ++ texts.flatMap (',' :: ·) := by
  induction texts generalizing text with
  | nil => simp
  | cons next texts ih => simp [ih]

theorem toList_array (texts : List String) :
    (array texts).toList = '[' :: ([','].intercalate (texts.map String.toList) ++ [']']) := by
  simp [array, String.toList_intercalate]

theorem nextElement_comma {text : List Char} (h : Starts text) (rest : List Char) :
    nextElement false (',' :: (text ++ rest)) = .ok (some (text ++ rest)) := by
  obtain ⟨c, cs, rfl, visible, opens⟩ := h
  simp [nextElement, skipBlank_cons (c := ',') (by decide), skipBlank_cons visible, opens]

theorem nextElement_first {text : List Char} (h : Starts text) (rest : List Char) :
    nextElement true (text ++ rest) = .ok (some (text ++ rest)) := by
  obtain ⟨c, cs, rfl, visible, opens⟩ := h
  simp [nextElement, skipBlank_cons visible]

/-- One element of a list, found where the walk goes to. -/
theorem readElements_succ {d : Decoder α} {levels depth : Nat} {text : List Char} {x : α}
    (h : Reads d levels text x) (room : levels ≤ depth) {first : Bool} {cs rest : List Char}
    (found : nextElement first cs = .ok (some (text ++ rest))) (ends : Delimited rest)
    (fuel : Nat) :
    readElements (d depth) (fuel + 1) first cs =
      (readElements (d depth) fuel false rest).map fun p => (x :: p.1, p.2) := by
  rw [readElements, found]
  simp only [bind, Except.bind]
  rw [h.read room ends]
  simp only
  cases readElements (d depth) fuel false rest <;> rfl

theorem delimited_more (texts : List (List Char)) (rest : List Char) :
    Delimited (texts.flatMap (',' :: ·) ++ ']' :: rest) := by
  cases texts <;> exact .cons (by decide) _

/-- The elements behind the first one. -/
theorem readElements_more {d : Decoder α} {levels depth : Nat} {texts : List (List Char)}
    {xs : List α} (reads : List.Forall₂ (Reads d levels) texts xs) (room : levels ≤ depth)
    (rest : List Char) {fuel : Nat} (enough : texts.length < fuel) :
    readElements (d depth) fuel false (texts.flatMap (',' :: ·) ++ ']' :: rest) =
      .ok (xs, rest) := by
  induction reads generalizing fuel with
  | nil =>
      cases fuel with
      | zero => cases enough
      | succ fuel => rfl
  | @cons text x texts xs first more ih =>
      cases fuel with
      | zero => cases enough
      | succ fuel =>
          rw [List.flatMap_cons, List.append_assoc, List.cons_append,
            readElements_succ first room (nextElement_comma first.starts _)
              (delimited_more texts rest), ih (Nat.lt_of_succ_lt_succ enough)]
          rfl

/-- The first element is found like one behind a comma. -/
theorem readElements_first (element : List Char → Reading (α × List Char))
    {texts : List (List Char)} (starts : ∀ text ∈ texts.head?, Starts text) (fuel : Nat)
    (rest : List Char) :
    readElements element fuel true ([','].intercalate texts ++ ']' :: rest) =
      readElements element fuel false (texts.flatMap (',' :: ·) ++ ']' :: rest) := by
  cases fuel with
  | zero => rfl
  | succ fuel =>
      cases texts with
      | nil => rfl
      | cons text texts =>
          have first : Starts text := starts text rfl
          rw [intercalate_comma, List.flatMap_cons, List.append_assoc, List.append_assoc,
            List.cons_append, readElements, readElements, nextElement_first first,
            nextElement_comma first]
          rfl

theorem head_starts {d : Decoder α} {levels : Nat} {texts : List (List Char)} {xs : List α}
    (reads : List.Forall₂ (Reads d levels) texts xs) : ∀ text ∈ texts.head?, Starts text := by
  intro text first
  cases reads with
  | nil => cases first
  | cons read more =>
      cases first
      exact read.starts

/-- The elements of a list, from behind its bracket. -/
theorem readElements_list {d : Decoder α} {levels depth : Nat} {texts : List (List Char)}
    {xs : List α} (reads : List.Forall₂ (Reads d levels) texts xs) (room : levels ≤ depth)
    (rest : List Char) {fuel : Nat} (enough : texts.length < fuel) :
    readElements (d depth) fuel true ([','].intercalate texts ++ ']' :: rest) =
      .ok (xs, rest) := by
  rw [readElements_first _ (head_starts reads)]
  exact readElements_more reads room rest enough

theorem length_le_more (texts : List (List Char)) :
    texts.length ≤ (texts.flatMap (',' :: ·)).length := by
  induction texts with
  | nil => simp
  | cons text texts ih =>
      rw [List.flatMap_cons, List.length_append]
      simp only [List.length_cons]
      omega

/-- The walk along a list has a character for each element and one for the end. -/
theorem length_lt_list {texts : List (List Char)} (starts : ∀ text ∈ texts.head?, Starts text)
    (rest : List Char) :
    texts.length < ([','].intercalate texts ++ ']' :: rest).length := by
  cases texts with
  | nil => simp
  | cons text texts =>
      obtain ⟨c, cs, rfl, -, -⟩ := starts text rfl
      have commas := length_le_more texts
      rw [intercalate_comma]
      simp only [List.length_append, List.length_cons]
      omega

theorem reads_array {d : Decoder α} {levels : Nat} {texts : List String} {xs : List α}
    (reads : List.Forall₂ (Reads d levels) (texts.map String.toList) xs) :
    Reads (decodeList d) (levels + 1) (array texts).toList xs where
  starts := ⟨'[', _, toList_array texts, by decide, by decide⟩
  read := by
    intro depth rest room ends
    cases depth with
    | zero => cases room
    | succ depth =>
        rw [toList_array, List.cons_append, List.append_assoc, List.singleton_append, decodeList,
          skipBlank_cons (by decide)]
        exact readElements_list reads (Nat.le_of_succ_le_succ room) rest
          (length_lt_list (head_starts reads) rest)

end Telemetry.Json
