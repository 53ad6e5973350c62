import Telemetry.Proofs.Json.Objects

set_option autoImplicit false

/-! # Texts that are refused

A decoder refuses a text if it stops at it with the same fault wherever the text may stand. The
reader of a list or an object stops at the first part that is refused, so what is put together from
parts is refused with the fault of that part. -/

namespace Telemetry.Json

variable {α δ : Type} {fault : Fault}

/-- The decoder refuses the text, given room for some levels of lists and objects. -/
structure Refuses (d : Decoder α) (levels : Nat) (text : List Char) (fault : Fault) : Prop where
  starts : Starts text
  refuse : ∀ {depth rest}, levels ≤ depth → Delimited rest → d depth (text ++ rest) = .error fault

theorem Refuses.decodeText {d : Decoder α} {levels : Nat} {text : String}
    (h : Refuses d levels text.toList fault) (room : levels ≤ depthLimit) :
    decodeText d text = .error fault := by
  have refuse := h.refuse room .nil
  rw [List.append_nil] at refuse
  rw [Json.decodeText, refuse]
  rfl

/-! ## Lists -/

/-- Of these texts, those up to one that is refused are read. -/
inductive FirstRefused (d : Decoder α) (levels : Nat) (fault : Fault) : List (List Char) → Prop
  | here {text : List Char} {texts : List (List Char)} (refused : Refuses d levels text fault) :
      FirstRefused d levels fault (text :: texts)
  | later {text : List Char} {x : α} {texts : List (List Char)} (read : Reads d levels text x)
      (more : FirstRefused d levels fault texts) : FirstRefused d levels fault (text :: texts)

section

variable {d : Decoder α} {levels depth : Nat} {texts : List (List Char)}

theorem FirstRefused.head_starts (h : FirstRefused d levels fault texts) :
    ∀ text ∈ texts.head?, Starts text := by
  intro text first
  cases h with
  | here refused =>
      cases first
      exact refused.starts
  | later read more =>
      cases first
      exact read.starts

theorem readElements_refused {text : List Char} (h : Refuses d levels text fault)
    (room : levels ≤ depth) {first : Bool} {cs rest : List Char}
    (found : nextElement first cs = .ok (some (text ++ rest))) (ends : Delimited rest)
    (fuel : Nat) : readElements (d depth) (fuel + 1) first cs = .error fault := by
  rw [readElements, found]
  simp only [bind, Except.bind]
  rw [h.refuse room ends]

/-- The walk along a list stops at the first element that is refused. -/
theorem FirstRefused.readElements_more (h : FirstRefused d levels fault texts)
    (room : levels ≤ depth) (rest : List Char) {fuel : Nat} (enough : texts.length < fuel) :
    readElements (d depth) fuel false (texts.flatMap (',' :: ·) ++ ']' :: rest)
      = .error fault := by
  induction h generalizing fuel with
  | @here text texts refused =>
      cases fuel with
      | zero => cases enough
      | succ fuel =>
          rw [List.flatMap_cons, List.append_assoc, List.cons_append]
          exact readElements_refused refused room (nextElement_comma refused.starts _)
            (delimited_more texts rest) fuel
  | @later text x texts read more ih =>
      cases fuel with
      | zero => cases enough
      | succ fuel =>
          rw [List.flatMap_cons, List.append_assoc, List.cons_append,
            readElements_succ read room (nextElement_comma read.starts _)
              (delimited_more texts rest), ih (Nat.lt_of_succ_lt_succ enough)]
          rfl

end

theorem refuses_array {d : Decoder α} {levels : Nat} {texts : List String}
    (h : FirstRefused d levels fault (texts.map String.toList)) :
    Refuses (decodeList d) (levels + 1) (array texts).toList fault where
  starts := ⟨'[', _, toList_array texts, by decide, by decide⟩
  refuse := by
    intro depth rest room ends
    cases depth with
    | zero => cases room
    | succ depth =>
        rw [toList_array, List.cons_append, List.append_assoc, List.singleton_append, decodeList,
          skipBlank_cons (by decide)]
        exact (readElements_first _ h.head_starts _ rest).trans
          (h.readElements_more (Nat.le_of_succ_le_succ room) rest
            (length_lt_list h.head_starts rest))

/-! ## Objects -/

section

variable {s : Shape δ α} {levels depth : Nat} {draft final : δ}
  {fields more : List (String × String)}

theorem Shape.readEntries_refused {first : Bool} {cs cs' : List Char}
    (found : nextKey first cs = .ok (some cs')) (entry : s.readEntry depth draft cs' = .error fault)
    (fuel : Nat) : s.readEntries depth (fuel + 1) first draft cs = .error fault := by
  rw [Shape.readEntries, found]
  simp only [bind, Except.bind]
  rw [entry]

/-- A field that the shape has and whose value is refused. -/
theorem Shape.readEntry_refused {β : Type} {name : String} {text rest : List Char}
    {get : δ → Option β} {set : δ → β → δ} {d : Decoder β}
    (known : (s.fields.find? fun f => f.name == name) = some (.slot name get set d))
    (unset : get draft = none) (h : Refuses d levels text fault) (room : levels ≤ depth)
    (ends : Delimited rest) :
    s.readEntry depth draft (escape name.toList ++ '"' :: ':' :: (text ++ rest))
      = .error fault := by
  have empty : (Field.slot name get set d).isSet draft = false := by
    simp [Field.slot, unset]
  rw [Shape.readEntry, readQuoted_escape]
  simp only [bind, Except.bind, String.ofList_toList, known, empty]
  rw [readColon, skipBlank_cons (by decide)]
  simp [Field.slot, h.refuse room ends, Except.map]

/-- The walk along an object stops at an entry that is refused. -/
theorem Shape.Fills.readEntries_stop {name text : String}
    (front : s.Fills levels draft fields final) (room : levels ≤ depth)
    (stops : ∀ {after}, Delimited after → s.readEntry depth final
      (escape name.toList ++ '"' :: ':' :: (text.toList ++ after)) = .error fault)
    (more : List (String × String)) (rest : List Char) {fuel : Nat}
    (enough : fields.length < fuel) :
    s.readEntries depth fuel true draft
        ([','].intercalate ((fields ++ (name, text) :: more).map entryText) ++ '\x7d' :: rest) =
      .error fault := by
  obtain ⟨fuel, rfl⟩ := Nat.exists_eq_add_of_lt enough
  rw [Shape.readEntries_first, List.map_append, List.flatMap_append, List.append_assoc,
    List.map_cons, List.flatMap_cons, List.append_assoc, List.cons_append, Nat.add_assoc,
    front.readEntries_through room (.cons (.inl rfl) _)]
  have ends := delimited_fields more (.cons (.inr (.inr rfl)) rest)
  refine Shape.readEntries_refused ?_ (stops ends) fuel
  simp [entryText, nextKey, skipBlank_cons, isBlank]

/-- An object is refused whose fields are read up to one whose value is refused. -/
theorem Shape.Fills.refuses {β : Type} {name text : String} {get : δ → Option β}
    {set : δ → β → δ} {d : Decoder β} (front : s.Fills levels s.blank fields final)
    (known : (s.fields.find? fun f => f.name == name) = some (.slot name get set d))
    (unset : get final = none) (h : Refuses d levels text.toList fault) :
    Refuses s.decode (levels + 1) (object (fields ++ (name, text) :: more)).toList fault where
  starts := ⟨'\x7b', _, toList_object _, by decide, by decide⟩
  refuse := by
    intro depth rest room ends
    cases depth with
    | zero => cases room
    | succ depth =>
        have room : levels ≤ depth := Nat.le_of_succ_le_succ room
        have enough := length_lt_object (fields ++ (name, text) :: more) rest
        rw [List.length_append, List.length_cons] at enough
        have walk := front.readEntries_stop room
          (fun after => Shape.readEntry_refused known unset h room after) more rest
          (Nat.lt_of_le_of_lt (Nat.le_add_right _ _) enough)
        rw [toList_object, List.cons_append, List.append_assoc, List.singleton_append,
          Shape.decode, skipBlank_cons (by decide)]
        generalize [','].intercalate ((fields ++ (name, text) :: more).map entryText)
          ++ '\x7d' :: rest = cs at walk ⊢
        simp [walk, bind, Except.bind]

end

end Telemetry.Json
