import Telemetry.Proofs.Decimal.Range

set_option autoImplicit false

/-! # Written floats read back as floats

The text of a finite float always has a point or an exponent, so the reader never takes it for a
whole number. In positional form some digit stands behind the point, and the exponent with which
the reader scales is negative; in the other form the digits are those of the shortest decimal. -/

namespace Telemetry.Json

open Decimal

/-- The digits of a magnitude are read as a float, whatever sign stands in front and wherever the
text may stand. -/
structure ReadsFloat (text : List Char) : Prop where
  starts : ∃ c cs, text = c :: cs ∧ c.isDigit = true
  read : ∀ positive, ∃ y : Float, ∀ {rest}, Delimited rest →
    readNumber positive (text ++ rest) = .ok (.float y, rest)

/-! ## Exponents -/

theorem readScale_delimited (positive : Bool) (n : Nat) (e : Int) {rest : List Char}
    (ends : Delimited rest) :
    readScale positive n e rest = (floatOf positive n e).map fun f => (f, rest) := by
  unfold readScale
  split
  · rcases ends 'e' rfl with h | h | h <;> cases h
  · rcases ends 'E' rfl with h | h | h <;> cases h
  · cases floatOf positive n e <;> rfl

/-- An exponent behind its sign. -/
theorem readExponent_signed (positive : Bool) (n : Nat) (start : Int) (up : Bool)
    {ds rest : List Char} (h : IsWhole ds) (small : Nat.ofDigitChars 10 ds 0 < UInt32.size / 2)
    (ends : Delimited rest) :
    readExponent positive n start ((if up then '+' else '-') :: (ds ++ rest)) =
      (floatOf positive n
        (if up then start + Nat.ofDigitChars 10 ds 0 else start - Nat.ofDigitChars 10 ds 0)).map
        fun f => (f, rest) := by
  have span := spanDigits_append h.digits ends.not_digit
  obtain ⟨c, cs, rfl, -⟩ := h.exists_cons
  unfold readExponent
  cases up
  all_goals
    simp only [Bool.false_eq_true, ↓reduceIte, span, gather_of_lt small]
    cases floatOf positive n _ <;> rfl

/-- A written exponent is added to the places that the point already stands for. -/
theorem readScale_exponent (positive : Bool) (n : Nat) (start : Int) {e : Int}
    (small : e.natAbs < UInt32.size / 2) {rest : List Char} (ends : Delimited rest) :
    readScale positive n start ('e' :: floatFormat.exponent e ++ rest) =
      (floatOf positive n (start + e)).map fun f => (f, rest) := by
  have whole := isWhole_toDigits e.natAbs
  have value := Nat.ofDigitChars_ten_toDigits (n := e.natAbs)
  rw [← value] at small
  by_cases neg : e < 0
  · have text : floatFormat.exponent e = (if false then '+' else '-') :: Nat.toDigits 10 e.natAbs :=
      if_pos neg
    have exponent : start - (e.natAbs : Int) = start + e := by omega
    have read := readExponent_signed positive n start false whole small ends
    rw [text]
    exact read.trans (by rw [value, ← exponent]; rfl)
  · have text : floatFormat.exponent e = (if true then '+' else '-') :: Nat.toDigits 10 e.natAbs :=
      if_neg neg
    have exponent : start + (e.natAbs : Int) = start + e := by omega
    have read := readExponent_signed positive n start true whole small ends
    rw [text]
    exact read.trans (by rw [value, ← exponent]; rfl)

/-! ## Digits behind the point -/

theorem readFraction_eq (positive : Bool) (n : Nat) (e : Int) {fs tail : List Char}
    (digits : ∀ c ∈ fs, c.isDigit = true) (some : fs ≠ [])
    (stops : ∀ c ∈ tail.head?, c.isDigit = false) :
    readFraction positive n e (fs ++ tail) =
      readScale positive (gather UInt64.size n fs).1
        (e - (fs.length - (gather UInt64.size n fs).2.length : Nat)) tail := by
  unfold readFraction
  rw [spanDigits_append digits stops]
  split
  · rename_i empty
    cases empty
    exact absurd rfl some
  · rename_i empty
    cases empty
    exact absurd rfl some
  · rename_i parts
    cases parts
    rfl

/-- Behind at most sixteen digits a further one fits, so the float is scaled down. -/
theorem readsFloat_plain (ws : List Char) {fs : List Char} (whole : IsWhole ws)
    (short : ws.length ≤ 16) (digits : ∀ c ∈ fs, c.isDigit = true) (some : fs ≠ []) :
    ReadsFloat (ws ++ '.' :: fs) where
  starts := by
    obtain ⟨c, cs, rfl, digit⟩ := whole.exists_cons
    exact ⟨c, cs ++ '.' :: fs, rfl, digit⟩
  read := by
    intro positive
    have small : Nat.ofDigitChars 10 ws 0 < 10 ^ 16 :=
      (ofDigitChars_lt whole.digits).trans_le (Nat.pow_le_pow_right (by decide) short)
    have size : 10 ^ 18 < UInt64.size := by decide
    obtain ⟨f, fs, rfl⟩ := List.exists_cons_of_ne_nil some
    -- The first digit behind the point is gathered, which makes the exponent negative.
    have first := digitValue_lt (digits f List.mem_cons_self)
    have fits : Nat.ofDigitChars 10 ws 0 * 10 + digitValue f < UInt64.size := by omega
    obtain ⟨left, gathered, length, -⟩ :=
      gather_spec (fun c hc => digits c (List.mem_cons_of_mem f hc)) fits
    rw [← gather_cons_of_lt fs fits] at gathered
    obtain ⟨y, scaled⟩ := exists_floatOf_of_neg
      (gather UInt64.size (Nat.ofDigitChars 10 ws 0) (f :: fs)).1
      (e := 0 - ((f :: fs).length - left.length : Nat)) (by rw [List.length_cons]; omega)
    refine ⟨if positive then y else -y, fun {rest} ends => ?_⟩
    rw [List.append_assoc, List.cons_append,
      whole.readNumber_eq positive (by omega) (by simp), readTail]
    rw [readFraction_eq positive _ _ digits some ends.not_digit,
      readScale_delimited positive _ _ ends, floatOf_eq_map]
    rw [gathered] at scaled ⊢
    rw [scaled]
    rfl

/-! ## Layouts -/

/-- One digit with an exponent. -/
theorem readsFloat_digit {c : Char} (digit : c.isDigit = true) {e : Int}
    (small : e.natAbs < UInt32.size / 2) {y : Float}
    (scaled : floatOf true (digitValue c) e = .ok y) :
    ReadsFloat (c :: 'e' :: floatFormat.exponent e) where
  starts := ⟨c, _, rfl, digit⟩
  read := by
    intro positive
    refine ⟨if positive then y else -y, fun {rest} ends => ?_⟩
    have value := ofDigitChars_singleton c
    have fits : digitValue c < UInt64.size := (digitValue_lt digit).trans (by decide)
    have read : readNumber positive ([c] ++ ('e' :: floatFormat.exponent e ++ rest)) = _ :=
      (IsWhole.singleton digit).readNumber_eq positive (by rwa [value]) (by simp)
    rw [value, List.singleton_append] at read
    rw [List.cons_append, read]
    simp only [List.cons_append, readTail]
    rw [← List.cons_append, readScale_exponent positive _ 0 small ends, floatOf_eq_map, zero_add,
      scaled]
    rfl

/-- Several digits with an exponent. -/
theorem readsFloat_digits {c f : Char} {fs : List Char} (digit : c.isDigit = true)
    (digits : ∀ d ∈ f :: fs, d.isDigit = true) {e : Int} (small : e.natAbs < UInt32.size / 2)
    {y : Float}
    (scaled : floatOf true (gather UInt64.size (digitValue c) (f :: fs)).1
      (0 - ((f :: fs).length - (gather UInt64.size (digitValue c) (f :: fs)).2.length : Nat) + e) =
        .ok y) :
    ReadsFloat (c :: '.' :: f :: fs ++ 'e' :: floatFormat.exponent e) where
  starts := ⟨c, _, rfl, digit⟩
  read := by
    intro positive
    refine ⟨if positive then y else -y, fun {rest} ends => ?_⟩
    have value := ofDigitChars_singleton c
    have fits : digitValue c < UInt64.size := (digitValue_lt digit).trans (by decide)
    have read : readNumber positive
        ([c] ++ '.' :: (f :: fs ++ ('e' :: floatFormat.exponent e ++ rest))) = _ :=
      (IsWhole.singleton digit).readNumber_eq positive (by rwa [value]) (by simp)
    rw [value, List.singleton_append] at read
    simp only [List.cons_append, List.append_assoc] at read ⊢
    rw [read]
    simp only [readTail]
    rw [← List.cons_append, ← List.cons_append,
      readFraction_eq positive _ _ digits (List.cons_ne_nil f fs) (by simp),
      readScale_exponent positive _ _ small ends, floatOf_eq_map, scaled]
    rfl

/-- A decimal written with an exponent. -/
theorem readsFloat_exponent {d : Scaled} (pos : d.digits ≠ 0) (read : ∃ y, d.reread = .ok y)
    (low : -1074 ≤ d.lead) (high : d.lead ≤ 308) :
    ReadsFloat (match digitsOf d.digits with
      | [c] => c :: 'e' :: floatFormat.exponent d.lead
      | c :: rest => c :: '.' :: rest ++ 'e' :: floatFormat.exponent d.lead
      | [] => []) := by
  obtain ⟨y, read⟩ := read
  have whole := isWhole_toDigits d.digits
  obtain ⟨left, gathered, shorter, -⟩ := gather_digits pos
  have size : 1074 < UInt32.size / 2 := by decide
  have small : d.lead.natAbs < UInt32.size / 2 := by omega
  rw [Scaled.reread] at read
  rw [Scaled.lead] at *
  rw [digitsOf] at *
  generalize Nat.toDigits 10 d.digits = ds at *
  obtain ⟨c, cs, rfl, digit⟩ := whole.exists_cons
  have fits : 0 * 10 + digitValue c < UInt64.size :=
    Nat.lt_of_lt_of_le (Nat.add_lt_add_left (digitValue_lt digit) (0 * 10)) (by decide)
  rw [gather_cons_of_lt cs fits, Nat.zero_mul, Nat.zero_add] at gathered read
  cases cs with
  | nil =>
      refine readsFloat_digit digit small (y := y) ?_
      rw [← read]
      simp [gather]
  | cons f fs =>
      refine readsFloat_digits digit (fun d hd => whole.digits d (List.mem_cons_of_mem c hd)) small
        (y := y) ?_
      rw [← read, gathered]
      congr 1
      simp only [List.length_cons] at shorter ⊢
      omega

/-- A decimal written without an exponent. -/
theorem readsFloat_positional {d : Scaled} (pos : d.digits ≠ 0)
    (short : d.lead < 16) :
    ReadsFloat
      (if 0 ≤ d.exp then digitsOf d.digits ++ List.replicate d.exp.toNat '0' ++ ['.', '0']
      else if 0 ≤ d.lead then
        (digitsOf d.digits).take (d.lead.toNat + 1) ++
          '.' :: (digitsOf d.digits).drop (d.lead.toNat + 1)
      else
        '0' :: '.' :: List.replicate (-d.lead - 1).toNat '0' ++ digitsOf d.digits) := by
  have whole := isWhole_toDigits d.digits
  have nonzero := toDigits_ne_zero pos
  rw [Scaled.lead] at *
  rw [digitsOf] at *
  generalize Nat.toDigits 10 d.digits = ds at *
  obtain ⟨c, cs, rfl, digit⟩ := whole.exists_cons
  have nonzero : c ≠ '0' := fun h => nonzero cs (by rw [h])
  have zero (k : Nat) : ∀ z ∈ List.replicate k '0', z.isDigit = true := fun z hz => by
    rw [List.eq_of_mem_replicate hz]
    rfl
  split
  · -- The point stands behind all digits and the zeros that the exponent asks for.
    refine readsFloat_plain (c :: cs ++ List.replicate d.exp.toNat '0')
      (isWhole_of_ne_zero nonzero ?_) ?_ (IsWhole.singleton rfl).digits (by decide)
    · intro z hz
      change z ∈ (c :: cs) ++ List.replicate d.exp.toNat '0' at hz
      rcases List.mem_append.1 hz with digits | zeros
      · exact whole.digits z digits
      · exact zero _ z zeros
    · rw [List.length_append, List.length_replicate]
      omega
  · rename_i point
    split
    · -- The point stands among the digits.
      refine readsFloat_plain _ ?_ ?_ (fun z hz => whole.digits z (List.mem_of_mem_drop hz)) ?_
      · rw [List.take_succ_cons]
        refine isWhole_of_ne_zero nonzero fun z hz => whole.digits z ?_
        exact List.mem_of_mem_take (i := (d.exp + (c :: cs).length - 1).toNat + 1) hz
      · rw [List.length_take]
        omega
      · rw [Ne, List.drop_eq_nil_iff]
        omega
    · -- The point stands in front, with zeros up to the first digit.
      refine readsFloat_plain ['0'] (IsWhole.singleton rfl) (by decide) ?_ (by simp)
      intro z hz
      rcases List.mem_append.1 hz with zeros | digits
      · exact zero _ z zeros
      · exact whole.digits z digits

theorem readsFloat_layout {d : Scaled} (pos : d.digits ≠ 0) (read : ∃ y, d.reread = .ok y)
    (low : -1074 ≤ d.lead) (high : d.lead ≤ 308) : ReadsFloat (floatFormat.layout d) := by
  unfold Format.layout
  dsimp only
  split
  · rename_i plain
    exact readsFloat_positional pos plain.2
  · exact readsFloat_exponent pos read low high

/-! ## Floats among values -/

theorem ReadsFloat.reads {text : List Char} (h : ReadsFloat text) :
    ∃ y, Reads readValue 0 text (.number (.float y)) := by
  obtain ⟨c, cs, rfl, digit⟩ := h.starts
  obtain ⟨y, read⟩ := h.read true
  refine ⟨y, ⟨c, cs, rfl, isBlank_of_isDigit digit, ?_⟩, ?_⟩
  · rintro rfl
    cases digit
  · intro depth rest _ ends
    rw [List.cons_append, readValue_digit digit, ← List.cons_append, read ends]
    rfl

theorem ReadsFloat.reads_minus {text : List Char} (h : ReadsFloat text) :
    ∃ y, Reads readValue 0 ('-' :: text) (.number (.float y)) := by
  obtain ⟨y, read⟩ := h.read false
  refine ⟨y, ⟨'-', text, rfl, by decide, by decide⟩, ?_⟩
  intro depth rest _ ends
  rw [List.cons_append, readValue_minus, read ends]
  rfl

theorem readsFloat_zero : ReadsFloat ['0', '.', '0'] :=
  readsFloat_plain ['0'] (IsWhole.singleton rfl) (by decide) (IsWhole.singleton rfl).digits
    (by decide)

/-- The text of a finite float is read as a float. -/
theorem reads_float {x : Float} (finite : x.isFinite = true) :
    ∃ y, Reads readValue 0 (float x).toList (.number (.float y)) := by
  have number : x.isNaN = false ∧ x.isInf = false := by
    unfold Float.isFinite Float.Model.isFinite at finite
    unfold Float.isNaN Float.Model.isNaN Float.isInf Float.Model.isInf
    cases unpacked : x.toModel.unpack with
    | infinity s | notANumber =>
        rw [unpacked] at finite
        cases finite
    | zero s | finite s m e pos => exact ⟨rfl, rfl⟩
  have magnitude : ReadsFloat (if (Binary.ofFloat x).m = 0 then ['0', '.', '0']
      else floatFormat.layout ((Binary.ofFloat x).shortest .toEven)) := by
    split
    · exact readsFloat_zero
    · rename_i pos
      have near := Binary.near_shortest .toEven pos (ofFloat_bounds finite).2.1
      obtain ⟨low, high⟩ := exponent_bounds finite near
      exact readsFloat_layout near.pos (exists_reread finite pos) low high
  have text : (float x).toList = floatFormat.finite x := by
    rw [float, Format.render, number.1, number.2]
    exact String.toList_ofList
  rw [text]
  unfold Format.finite
  dsimp only
  split
  · exact magnitude.reads_minus
  · exact magnitude.reads

end Telemetry.Json
