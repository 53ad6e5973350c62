import Telemetry.Proofs.Json.Reads

set_option autoImplicit false

/-! # Written strings read back

Every character is written either as itself or as an escape, and the reader turns both into the
character again. So a string of any characters is read back from between its quotes. -/

namespace Telemetry.Json

/-- The last two digits of a control character's escape say which one it is. -/
theorem hexUnit_hexDigit {n : Nat} (h : n < 32) :
    hexUnit '0' '0' (hexDigit (n / 16)) (hexDigit (n % 16)) = some n := by
  revert n
  decide

theorem readQuoted_control {c : Char} (h : c.toNat < 32) (cs : List Char) :
    readQuoted ('\\' :: 'u' :: '0' :: '0' :: hexDigit (c.toNat / 16) :: hexDigit (c.toNat % 16) ::
      cs) = consChar c (readQuoted cs) := by
  have low : isLowSurrogate c.toNat = false := by
    simp only [isLowSurrogate, Bool.and_eq_false_imp, decide_eq_true_eq]
    omega
  have high : isHighSurrogate c.toNat = false := by
    simp only [isHighSurrogate, Bool.and_eq_false_imp, decide_eq_true_eq]
    omega
  rw [readQuoted, hexUnit_hexDigit h]
  simp only [low, high, Bool.false_eq_true, ↓reduceIte, Char.ofNat_toNat]

/-- Where a character was written, it is read. -/
theorem readQuoted_escapeChar (c : Char) (cs : List Char) :
    readQuoted (escapeChar c ++ cs) = consChar c (readQuoted cs) := by
  -- In the last case the character is a control character or stands for itself; all others have
  -- an escape of their own.
  unfold escapeChar
  split
  case h_8 quote backslash _ _ _ _ _ =>
      split
      · rename_i control
        exact readQuoted_control control cs
      · rename_i printable
        rw [List.singleton_append, readQuoted, if_neg printable]
        · exact quote
        · exact fun _ _ _ _ _ h _ => backslash h
        · exact fun _ h _ => backslash h
        · exact fun h _ => backslash h
        · exact fun _ _ h _ => backslash h
  all_goals simp [readQuoted, plainEscape]

theorem readQuoted_escape (s rest : List Char) :
    readQuoted (escape s ++ '"' :: rest) = .ok (s, rest) := by
  induction s with
  | nil => simp [escape, readQuoted]
  | cons c s ih =>
      rw [escape, List.flatMap_cons, List.append_assoc, readQuoted_escapeChar, ← escape, ih]
      rfl

/-! ## Strings, names and lists of strings -/

theorem toList_quote (s : String) : (quote s).toList = '"' :: (escape s.toList ++ ['"']) := by
  simp [quote]

theorem quote_append (s : String) (rest : List Char) :
    (quote s).toList ++ rest = '"' :: (escape s.toList ++ '"' :: rest) := by
  simp [toList_quote]

theorem starts_quote (s : String) : Starts (quote s).toList :=
  ⟨'"', _, toList_quote s, by decide, by decide⟩

theorem reads_quote (s : String) : Reads decodeString 0 (quote s).toList s where
  starts := starts_quote s
  read := by
    intro depth rest _ _
    rw [decodeString, (starts_quote s).skipBlank, quote_append]
    simp [readQuoted_escape]

theorem reads_name {α : Type} {names : List (String × α)} {name : String} {x : α}
    (h : names.lookup name = some x) : Reads (decodeName names) 0 (quote name).toList x where
  starts := starts_quote name
  read := by
    intro depth rest _ _
    rw [decodeName, (starts_quote name).skipBlank, quote_append]
    simp [readName, readQuoted_escape, h, bind, Except.bind, pure, Except.pure]

theorem reads_string (s : String) : Reads readValue 0 (quote s).toList (.string s) where
  starts := starts_quote s
  read := by
    intro depth rest _ _
    unfold readValue
    rw [(starts_quote s).skipBlank, quote_append]
    simp [readQuoted_escape]

theorem reads_strings (items : List String) :
    Reads readValue 1 (array (items.map quote)).toList (.array (items.map .string)) where
  starts := ⟨'[', _, toList_array _, by decide, by decide⟩
  read := by
    intro depth rest room ends
    have reads : List.Forall₂ (Reads readValue 0) ((items.map quote).map String.toList)
        (items.map .string) := by
      rw [List.map_map, List.forall₂_map_left_iff, List.forall₂_map_right_iff, List.forall₂_same]
      exact fun s _ => reads_string s
    cases depth with
    | zero => cases room
    | succ depth =>
        have walk :=
          readElements_list reads (Nat.zero_le depth) rest
            (length_lt_list (head_starts reads) rest)
        unfold readValue
        rw [toList_array, List.cons_append, List.append_assoc, List.singleton_append,
          skipBlank_cons (by decide)]
        generalize [','].intercalate ((items.map quote).map String.toList) ++ ']' :: rest = cs
          at walk ⊢
        simp [walk]

theorem reads_boolean (b : Bool) : Reads readValue 0 (boolean b).toList (.boolean b) where
  starts := by
    cases b
    · exact ⟨'f', ['a', 'l', 's', 'e'], rfl, by decide, by decide⟩
    · exact ⟨'t', ['r', 'u', 'e'], rfl, by decide, by decide⟩
  read := by
    intro depth rest _ _
    unfold readValue
    cases b <;> simp [boolean, skipBlank_cons, isBlank, readWord]

end Telemetry.Json
