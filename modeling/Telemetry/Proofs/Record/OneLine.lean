import Telemetry.Record.Log

set_option autoImplicit false

/-! # Records on one line

The text of a record stays on one line, in JSON and in diagnostics, whatever strings the record
holds. A line break could only come from a string, and both ways of quoting write it as an escape;
everything else is put together from words, digits and punctuation. -/

namespace Telemetry

/-- A text without a line break. -/
def Text.OneLine (text : String) : Prop :=
  '\n' ∉ text.toList

instance (text : String) : Decidable (Text.OneLine text) :=
  inferInstanceAs (Decidable ('\n' ∉ text.toList))

open Text

/-! ## Putting texts together -/

namespace Text.OneLine

theorem append {a b : String} (ha : OneLine a) (hb : OneLine b) : OneLine (a ++ b) := by
  unfold OneLine at ha hb ⊢
  simp [ha, hb]

theorem intercalate {separator : String} {parts : List String} (hs : OneLine separator)
    (hp : ∀ part ∈ parts, OneLine part) : OneLine (separator.intercalate parts) := by
  induction parts with
  | nil => simp [OneLine]
  | cons part parts ih =>
      have first : OneLine part := hp part List.mem_cons_self
      have more : OneLine (separator.intercalate parts) :=
        ih fun other h => hp other (List.mem_cons_of_mem _ h)
      by_cases last : parts = []
      · subst last
        simpa using first
      · rw [String.intercalate_cons_of_ne_nil last]
        exact (first.append hs).append more

end Text.OneLine

section

variable {name : String} {parts : List String} {fields : List (String × String)}

theorem oneLine_commaSeparated (h : ∀ part ∈ parts, OneLine part) :
    OneLine (commaSeparated parts) :=
  .intercalate (by decide) h

theorem oneLine_bracketed (h : ∀ part ∈ parts, OneLine part) : OneLine (bracketed parts) := by
  unfold bracketed
  exact .append (.append (by decide) (oneLine_commaSeparated h)) (by decide)

theorem oneLine_applied (hn : OneLine name) (h : ∀ part ∈ parts, OneLine part) :
    OneLine (applied name parts) := by
  unfold applied
  exact .append (.append (.append hn (by decide)) (oneLine_commaSeparated h)) (by decide)

theorem oneLine_braced (hn : OneLine name)
    (h : ∀ f ∈ fields, OneLine f.1 ∧ OneLine f.2) : OneLine (braced name fields) := by
  unfold braced
  refine .append (.append (.append hn (by decide)) (oneLine_commaSeparated ?_)) (by decide)
  intro part hp
  obtain ⟨f, hf, rfl⟩ := List.mem_map.1 hp
  exact .append (.append (h f hf).1 (by decide)) (h f hf).2

theorem oneLine_optional {part : Option String} (h : ∀ text ∈ part, OneLine text) :
    OneLine (optional part) := by
  cases part with
  | none => decide
  | some text => exact oneLine_applied (by decide) (by simpa using h)

theorem oneLine_array (h : ∀ part ∈ parts, OneLine part) : OneLine (Json.array parts) := by
  unfold Json.array
  exact .append (.append (by decide) (.intercalate (by decide) h)) (by decide)

theorem oneLine_nullable {part : Option String} (h : ∀ text ∈ part, OneLine text) :
    OneLine (Json.nullable part) := by
  cases part with
  | none => decide
  | some text => simpa [Json.nullable] using h

end

/-! ## Strings -/

/-- No digit of any base is a line break. -/
theorem newline_notMem_toDigits {b : Nat} (hb : 1 < b) (n : Nat) : '\n' ∉ Nat.toDigits b n := by
  induction n using Nat.strongRecOn with
  | _ n ih =>
    rw [Nat.toDigits_eq_if hb]
    split
    · simp
    · rename_i large
      have smaller : n / b < n := Nat.div_lt_self (by omega) hb
      simp [ih _ smaller]

theorem newline_notMem_codeEscape (c : Char) : '\n' ∉ codeEscape c := by
  simp [codeEscape, newline_notMem_toDigits]

/-- A line break is written as an escape, and no other character brings one in. -/
theorem newline_notMem_quotedChar (c : Char) : '\n' ∉ quotedChar c := by
  unfold quotedChar
  split
  case h_7 _ _ _ other _ _ =>
      split
      · exact newline_notMem_codeEscape c
      · simpa [eq_comm] using other
  all_goals decide

theorem oneLine_quoted (s : String) : OneLine (quoted s) := by
  simp [OneLine, quoted, newline_notMem_quotedChar]

theorem newline_notMem_hexDigits {n : Nat} (h : n < 32) :
    '\n' ∉ [Json.hexDigit (n / 16), Json.hexDigit (n % 16)] := by
  revert n
  decide

/-- JSON writes a line break as an escape too. -/
theorem newline_notMem_escapeChar (c : Char) : '\n' ∉ Json.escapeChar c := by
  unfold Json.escapeChar
  split
  case h_8 _ _ _ _ other _ _ =>
      split
      · rename_i control
        simpa using newline_notMem_hexDigits control
      · simpa [eq_comm] using other
  all_goals decide

theorem oneLine_quote (s : String) : OneLine (Json.quote s) := by
  simp [OneLine, Json.quote, Json.escape, newline_notMem_escapeChar]

theorem oneLine_object {fields : List (String × String)} (h : ∀ f ∈ fields, OneLine f.2) :
    OneLine (Json.object fields) := by
  unfold Json.object
  refine .append (.append (by decide) (.intercalate (by decide) ?_)) (by decide)
  intro part hp
  obtain ⟨f, hf, rfl⟩ := List.mem_map.1 hp
  exact .append (.append (oneLine_quote f.1) (by decide)) (h f hf)

/-! ## Numbers -/

theorem oneLine_repr (n : Nat) : OneLine (Nat.repr n) := by
  unfold OneLine
  rw [Nat.toList_repr]
  exact newline_notMem_toDigits (by decide) n

theorem oneLine_integer (i : Int) : OneLine (Json.integer i) := by
  unfold Json.integer
  split
  · exact .append (by decide) (oneLine_repr _)
  · exact oneLine_repr _

theorem oneLine_boolean (b : Bool) : OneLine (Json.boolean b) := by
  cases b <;> decide

section

open Decimal

variable (f : Format)

theorem newline_notMem_digitsOf (n : Nat) : '\n' ∉ digitsOf n :=
  newline_notMem_toDigits (by decide) n

theorem newline_notMem_exponent (e : Int) : '\n' ∉ f.exponent e := by
  unfold Format.exponent
  split
  · simp [newline_notMem_digitsOf]
  · split <;> simp [newline_notMem_digitsOf]

/-- The digits of a float stay on one line in every layout. -/
theorem newline_notMem_layout (d : Scaled) : '\n' ∉ f.layout d := by
  have whole := newline_notMem_digitsOf d.digits
  unfold Format.layout
  generalize digitsOf d.digits = ds at whole ⊢
  simp only
  split
  · split
    · simp [whole, List.mem_replicate]
    · split
      · have front (n : Nat) : '\n' ∉ ds.take n := fun h => whole (List.mem_of_mem_take h)
        have back (n : Nat) : '\n' ∉ ds.drop n := fun h => whole (List.mem_of_mem_drop h)
        simp [front, back]
      · simp [whole, List.mem_replicate]
  · split
    · simpa [newline_notMem_exponent] using whole
    · simpa [newline_notMem_exponent] using whole
    · exact List.not_mem_nil

theorem newline_notMem_finite (x : Float) : '\n' ∉ f.finite x := by
  unfold Format.finite
  simp only
  split
  · split <;> simp [newline_notMem_layout]
  · split <;> simp [newline_notMem_layout]

theorem oneLine_render {f : Format} (nan : OneLine f.nan) (infinity : OneLine f.infinity)
    (negInfinity : OneLine f.negInfinity) (x : Float) : OneLine (f.render x) := by
  unfold Format.render
  split
  · exact nan
  · split
    · split
      · exact negInfinity
      · exact infinity
    · simpa [OneLine] using newline_notMem_finite f x

end

/-! ## Records -/

theorem AttributeValue.oneLine_encode (v : AttributeValue) : OneLine v.encode := by
  cases v with
  | text s => exact oneLine_quote s
  | int i => exact oneLine_integer i.toInt
  | float x => exact oneLine_render (by decide) (by decide) (by decide) x
  | bool b => exact oneLine_boolean b
  | texts items =>
      refine oneLine_array ?_
      simp [oneLine_quote]

theorem AttributeValue.oneLine_debug (v : AttributeValue) : OneLine v.debug := by
  have named : OneLine v.kindName := by
    cases v <;> simp only [kindName] <;> decide
  unfold AttributeValue.debug
  refine oneLine_applied named ?_
  simp only [List.singleton, List.forall_mem_singleton]
  cases v with
  | text s => exact oneLine_quoted s
  | int i => exact oneLine_integer i.toInt
  | float x => exact oneLine_render (by decide) (by decide) (by decide) x
  | bool b => exact oneLine_boolean b
  | texts items =>
      refine oneLine_bracketed ?_
      simp [oneLine_quoted]

theorem Attribute.oneLine_encode (a : Attribute) : OneLine a.encode := by
  refine oneLine_object ?_
  simp [oneLine_quote, a.value.oneLine_encode]

theorem Attribute.oneLine_debug (a : Attribute) : OneLine a.debug := by
  refine oneLine_braced (by decide) ?_
  simp only [List.forall_mem_cons]
  exact ⟨⟨by decide, oneLine_quoted _⟩, ⟨by decide, a.value.oneLine_debug⟩, by simp⟩

theorem oneLine_encodeAttributes (attributes : List Attribute) :
    OneLine (encodeAttributes attributes) := by
  refine oneLine_array ?_
  simp [Attribute.oneLine_encode]

theorem oneLine_debugAttributes (attributes : List Attribute) :
    OneLine (debugAttributes attributes) := by
  refine oneLine_bracketed ?_
  simp [Attribute.oneLine_debug]

theorem Span.oneLine_encode (s : Span) : OneLine s.encode := by
  refine oneLine_object ?_
  simp [Json.natural, oneLine_repr, oneLine_quote, oneLine_encodeAttributes]

theorem Span.oneLine_debug (s : Span) : OneLine s.debug := by
  have kind : OneLine s.kind.name := by
    cases s.kind <;> decide
  have status : OneLine s.status.name := by
    cases s.status <;> decide
  refine oneLine_braced (by decide) ?_
  simp only [List.forall_mem_cons, List.not_mem_nil, false_implies, implies_true, and_true]
  refine ⟨⟨?_, oneLine_repr _⟩, ⟨?_, oneLine_repr _⟩, ⟨?_, oneLine_repr _⟩,
    ⟨?_, oneLine_quoted _⟩, ⟨?_, kind⟩, ⟨?_, status⟩, ⟨?_, oneLine_repr _⟩,
    ⟨?_, oneLine_repr _⟩, ?_, oneLine_debugAttributes _⟩
  all_goals decide

theorem LogEntry.oneLine_encode (r : LogEntry) : OneLine r.encode := by
  refine oneLine_object ?_
  have trace : OneLine (Json.nullable (r.traceId.map fun t => Json.natural t.toNat)) :=
    oneLine_nullable (by simp [Json.natural, oneLine_repr])
  have span : OneLine (Json.nullable (r.spanId.map fun s => Json.natural s.toNat)) :=
    oneLine_nullable (by simp [Json.natural, oneLine_repr])
  have time : OneLine (Json.natural r.timeNanos.toNat) := oneLine_repr _
  simp [time, oneLine_quote, oneLine_encodeAttributes, trace, span]

theorem LogEntry.oneLine_debug (r : LogEntry) : OneLine r.debug := by
  have severity : OneLine r.severity.name := by
    cases r.severity <;> decide
  have trace : OneLine (optional (r.traceId.map fun t => Nat.repr t.toNat)) :=
    oneLine_optional (by simp [oneLine_repr])
  have span : OneLine (optional (r.spanId.map fun s => Nat.repr s.toNat)) :=
    oneLine_optional (by simp [oneLine_repr])
  refine oneLine_braced (by decide) ?_
  simp only [List.forall_mem_cons, List.not_mem_nil, false_implies, implies_true, and_true]
  refine ⟨⟨?_, oneLine_repr _⟩, ⟨?_, severity⟩, ⟨?_, oneLine_quoted _⟩, ⟨?_, trace⟩, ⟨?_, span⟩,
    ?_, oneLine_debugAttributes _⟩
  all_goals decide

end Telemetry
