import Telemetry.Proofs.Json.Quoted

set_option autoImplicit false

/-! # Objects that are read as records

A written object names its fields one after the other. The reader finds each of them in the shape
and enters it in the draft, so the draft behind the last field has what all of them say. -/

namespace Telemetry.Json

variable {δ α : Type}

/-! ## Texts of objects -/

/-- A field of a written object. -/
def entryText (f : String × String) : List Char :=
  '"' :: (escape f.1.toList ++ '"' :: ':' :: f.2.toList)

theorem toList_object (fields : List (String × String)) :
    (object fields).toList = '\x7b' :: ([','].intercalate (fields.map entryText) ++ ['\x7d']) := by
  simp [object, String.toList_intercalate, Function.comp_def, toList_quote]
  rfl

/-! ## Filling a draft -/

/-- Reading these fields one after the other takes one draft to another. -/
inductive Shape.Fills (s : Shape δ α) (levels : Nat) : δ → List (String × String) → δ → Prop
  | nil (draft : δ) : Fills s levels draft [] draft
  | cons {draft next final : δ} {f : String × String} {fields : List (String × String)}
      (entry : ∀ {depth rest}, levels ≤ depth → Delimited rest →
        s.readEntry depth draft (escape f.1.toList ++ '"' :: ':' :: (f.2.toList ++ rest)) =
          .ok (next, rest))
      (more : Fills s levels next fields final) : Fills s levels draft (f :: fields) final

/-- A field that the shape has, read for the first time. -/
theorem Shape.Fills.slot {s : Shape δ α} {levels : Nat} {β : Type} {name text : String}
    {get : δ → Option β} {set : δ → β → δ} {d : Decoder β} {draft final : δ}
    {fields : List (String × String)} {x : β}
    (known : (s.fields.find? fun f => f.name == name) = some (.slot name get set d))
    (first : get draft = none) (h : Reads d levels text.toList x)
    (more : s.Fills levels (set draft x) fields final) :
    s.Fills levels draft ((name, text) :: fields) final := by
  refine .cons ?_ more
  intro depth rest room ends
  -- A field that is set already would be refused as a duplicate.
  have unset : (Field.slot name get set d).isSet draft = false := by
    simp [Field.slot, first]
  rw [Shape.readEntry, readQuoted_escape]
  simp only [bind, Except.bind, String.ofList_toList, known, unset]
  rw [readColon, skipBlank_cons (by decide)]
  simp [Field.slot, h.read room ends, Except.map]

theorem Shape.Fills.append {s : Shape δ α} {levels : Nat} {draft next final : δ}
    {front back : List (String × String)} (h : s.Fills levels draft front next)
    (more : s.Fills levels next back final) : s.Fills levels draft (front ++ back) final := by
  induction h with
  | nil draft => exact more
  | cons entry _ ih => exact .cons entry (ih more)

/-! ## Walking along an object -/

theorem delimited_fields (fields : List (String × String)) {rest : List Char}
    (ends : Delimited rest) :
    Delimited ((fields.map entryText).flatMap (',' :: ·) ++ rest) := by
  cases fields with
  | nil => exact ends
  | cons f fields => exact .cons (.inl rfl) _

/-- One field of an object, found where the walk goes to. -/
theorem Shape.readEntries_succ {s : Shape δ α} {depth : Nat} {draft next : δ} {first : Bool}
    {cs cs' rest : List Char} (found : nextKey first cs = .ok (some cs'))
    (entry : s.readEntry depth draft cs' = .ok (next, rest)) (fuel : Nat) :
    s.readEntries depth (fuel + 1) first draft cs = s.readEntries depth fuel false next rest := by
  rw [readEntries, found]
  simp only [bind, Except.bind]
  rw [entry]

/-- Fields that are read lead the walk to what stands behind them. -/
theorem Shape.Fills.readEntries_through {s : Shape δ α} {levels depth : Nat} {draft final : δ}
    {fields : List (String × String)} (h : s.Fills levels draft fields final)
    (room : levels ≤ depth) {rest : List Char} (ends : Delimited rest) (fuel : Nat) :
    s.readEntries depth (fields.length + fuel) false draft
        ((fields.map entryText).flatMap (',' :: ·) ++ rest) =
      s.readEntries depth fuel false final rest := by
  induction h with
  | nil draft => simp
  | @cons draft next final f fields entry more ih =>
      rw [List.length_cons, Nat.add_right_comm,
        Shape.readEntries_succ _ (entry room (delimited_fields fields ends)), ih]
      simp [entryText, nextKey, skipBlank_cons, isBlank]

/-- The first key is found like one behind a comma. -/
theorem Shape.readEntries_first (s : Shape δ α) (depth fuel : Nat) (draft : δ)
    (fields : List (String × String)) (rest : List Char) :
    s.readEntries depth fuel true draft
        ([','].intercalate (fields.map entryText) ++ '\x7d' :: rest) =
      s.readEntries depth fuel false draft
        ((fields.map entryText).flatMap (',' :: ·) ++ '\x7d' :: rest) := by
  cases fuel with
  | zero => rfl
  | succ fuel =>
      cases fields with
      | nil => rfl
      | cons f fields =>
          simp only [List.map_cons, intercalate_comma, List.flatMap_cons, List.cons_append,
            List.append_assoc, Shape.readEntries]
          simp [entryText, nextKey, skipBlank_cons, isBlank, bind, Except.bind]

/-- The fields of an object, from behind its bracket up to its end. -/
theorem Shape.Fills.readEntries {s : Shape δ α} {levels depth : Nat} {draft final : δ}
    {fields : List (String × String)} (h : s.Fills levels draft fields final)
    (room : levels ≤ depth) (rest : List Char) {fuel : Nat} (enough : fields.length < fuel) :
    s.readEntries depth fuel true draft
        ([','].intercalate (fields.map entryText) ++ '\x7d' :: rest) =
      .ok (final, '\x7d' :: rest) := by
  obtain ⟨fuel, rfl⟩ := Nat.exists_eq_add_of_lt enough
  rw [Shape.readEntries_first, Nat.add_assoc,
    h.readEntries_through room (.cons (by decide) rest)]
  rfl

theorem length_lt_object (fields : List (String × String)) (rest : List Char) :
    fields.length < ([','].intercalate (fields.map entryText) ++ '\x7d' :: rest).length := by
  cases fields with
  | nil => simp
  | cons f fields =>
      have commas := length_le_more (fields.map entryText)
      rw [List.map_cons, intercalate_comma]
      simp only [List.length_append, List.length_cons, List.length_map, entryText] at commas ⊢
      omega

/-- A record is read from the object that names its fields. -/
theorem Shape.Fills.reads {s : Shape δ α} {levels : Nat} {final : δ}
    {fields : List (String × String)} {x : α} (h : s.Fills levels s.blank fields final)
    (complete : s.finish final = .ok x) :
    Reads s.decode (levels + 1) (object fields).toList x where
  starts := ⟨'\x7b', _, toList_object fields, by decide, by decide⟩
  read := by
    intro depth rest room ends
    cases depth with
    | zero => cases room
    | succ depth =>
        have walk := h.readEntries (Nat.le_of_succ_le_succ room) rest (length_lt_object fields rest)
        rw [toList_object, List.cons_append, List.append_assoc, List.singleton_append,
          Shape.decode, skipBlank_cons (by decide)]
        generalize [','].intercalate (fields.map entryText) ++ '\x7d' :: rest = cs at walk ⊢
        simp [walk, Shape.complete, complete, Except.mapError, bind, Except.bind, pure,
          Except.pure, endObject, skipBlank_cons, isBlank]

end Telemetry.Json
