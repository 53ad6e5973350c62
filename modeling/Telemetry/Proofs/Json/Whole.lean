import Mathlib.Data.List.TakeDrop
import Mathlib.Tactic.Linarith
import Mathlib.Tactic.Positivity
import Telemetry.Proofs.Json.Reads

set_option autoImplicit false

/-! # Written whole numbers read back

The reader gathers the digits of a number one by one and stops where the next one no longer fits.
What it has then is a front of the digits, so its value is that of all digits cut off behind some
decimal place. The digits of a number that fits are all gathered and give the number again. -/

namespace Telemetry.Json

/-! ## Digits -/

theorem Delimited.not_digit {rest : List Char} (h : Delimited rest) :
    ∀ c ∈ rest.head?, c.isDigit = false := by
  intro c hc
  rcases h c hc with rfl | rfl | rfl <;> rfl

theorem isBlank_of_isDigit {c : Char} (h : c.isDigit = true) : isBlank c = false := by
  rw [Bool.eq_false_iff]
  intro blank
  simp only [isBlank, Bool.or_eq_true, beq_iff_eq] at blank
  rcases blank with ((rfl | rfl) | rfl) | rfl <;> simp at h

theorem spanDigits_append {ds rest : List Char} (digits : ∀ c ∈ ds, c.isDigit = true)
    (stops : ∀ c ∈ rest.head?, c.isDigit = false) : spanDigits (ds ++ rest) = (ds, rest) := by
  rw [spanDigits, List.span_eq_takeWhile_dropWhile, List.takeWhile_append_of_pos digits,
    List.dropWhile_append_of_pos digits]
  cases rest with
  | nil => simp
  | cons c rest => simp [stops c rfl]

theorem digitValue_lt {c : Char} (h : c.isDigit = true) : digitValue c < 10 := by
  have most : c.toNat ≤ 57 := by
    simp only [Char.isDigit, Bool.and_eq_true, decide_eq_true_eq] at h
    exact UInt32.le_iff_toNat_le.1 h.2
  have least : ('0' : Char).toNat = 48 := rfl
  rw [digitValue]
  omega

theorem ofDigitChars_lt {ds : List Char} (digits : ∀ c ∈ ds, c.isDigit = true) :
    Nat.ofDigitChars 10 ds 0 < 10 ^ ds.length := by
  induction ds with
  | nil => simp
  | cons d ds ih =>
      have first := digitValue_lt (digits d List.mem_cons_self)
      have others := ih fun c hc => digits c (List.mem_cons_of_mem d hc)
      rw [Nat.ofDigitChars_cons, Nat.ofDigitChars_eq_ofDigitChars_zero, List.length_cons, pow_succ,
        Nat.mul_zero, Nat.zero_add, ← digitValue]
      nlinarith

/-- Cutting off the last decimal places takes the last digits away. -/
theorem ofDigitChars_div {ds : List Char} (digits : ∀ c ∈ ds, c.isDigit = true) (n : Nat) :
    Nat.ofDigitChars 10 ds n / 10 ^ ds.length = n := by
  rw [Nat.ofDigitChars_eq_ofDigitChars_zero, Nat.mul_add_div (by positivity),
    Nat.div_eq_of_lt (ofDigitChars_lt digits), Nat.add_zero]

theorem le_ofDigitChars (ds : List Char) (n : Nat) : n ≤ Nat.ofDigitChars 10 ds n := by
  rw [Nat.ofDigitChars_eq_ofDigitChars_zero]
  have := Nat.le_mul_of_pos_left n (show 0 < 10 ^ ds.length by positivity)
  omega

theorem ofDigitChars_singleton (c : Char) : Nat.ofDigitChars 10 [c] 0 = digitValue c := by
  rw [Nat.ofDigitChars_cons, Nat.ofDigitChars_nil, Nat.mul_zero, Nat.zero_add, digitValue]

/-! ## Gathering digits -/

theorem gather_cons_of_lt {limit n : Nat} {d : Char} (ds : List Char)
    (fits : n * 10 + digitValue d < limit) :
    gather limit n (d :: ds) = gather limit (n * 10 + digitValue d) ds := by
  rw [gather]
  exact if_pos fits

/-- Digits that fit together are gathered. -/
theorem gather_of_lt {limit n : Nat} {ds : List Char}
    (fits : Nat.ofDigitChars 10 ds n < limit) :
    gather limit n ds = (Nat.ofDigitChars 10 ds n, []) := by
  induction ds generalizing n with
  | nil => simp [gather]
  | cons d ds ih =>
      rw [Nat.ofDigitChars_cons, Nat.mul_comm, ← digitValue] at fits ⊢
      rw [gather_cons_of_lt ds (Nat.lt_of_le_of_lt (le_ofDigitChars ds _) fits)]
      exact ih fits

/-- Whatever is gathered, it is what the digits amount to without those that are left. -/
theorem gather_spec {limit n : Nat} {ds : List Char} (digits : ∀ c ∈ ds, c.isDigit = true)
    (small : n < limit) :
    ∃ left, gather limit n ds = (Nat.ofDigitChars 10 ds n / 10 ^ left.length, left) ∧
      left.length ≤ ds.length ∧ Nat.ofDigitChars 10 ds n / 10 ^ left.length < limit := by
  induction ds generalizing n with
  | nil => exact ⟨[], by simp [gather], Nat.le_refl 0, by simpa using small⟩
  | cons d ds ih =>
      by_cases fits : n * 10 + digitValue d < limit
      · obtain ⟨left, gathered, length, below⟩ :=
          ih (fun c hc => digits c (List.mem_cons_of_mem d hc)) fits
        rw [Nat.ofDigitChars_cons, Nat.mul_comm, ← digitValue, gather_cons_of_lt ds fits]
        exact ⟨left, gathered, Nat.le_succ_of_le length, below⟩
      · -- The gathering ends here and leaves all digits from this one on.
        refine ⟨d :: ds, ?_, Nat.le_refl _, ?_⟩
        · rw [ofDigitChars_div digits, gather]
          exact if_neg fits
        · rw [ofDigitChars_div digits]
          exact small

/-! ## Whole numbers -/

/-- The digits of a whole number: there is one, and only a lone one may be zero in front. -/
structure IsWhole (ds : List Char) : Prop where
  digits : ∀ c ∈ ds, c.isDigit = true
  nonempty : ds ≠ []
  leading : ∀ c cs, ds ≠ '0' :: c :: cs

theorem IsWhole.singleton {c : Char} (h : c.isDigit = true) : IsWhole [c] where
  digits := by simpa using h
  nonempty := List.cons_ne_nil c []
  leading := by simp

/-- Behind a first digit that is not zero any digits may follow. -/
theorem isWhole_of_ne_zero {c : Char} {cs : List Char} (nonzero : c ≠ '0')
    (digits : ∀ d ∈ c :: cs, d.isDigit = true) : IsWhole (c :: cs) where
  digits := digits
  nonempty := List.cons_ne_nil c cs
  leading := fun _ _ h => nonzero (List.cons.inj h).1

theorem isWhole_toDigits (n : Nat) : IsWhole (Nat.toDigits 10 n) where
  digits := fun c hc => Nat.isDigit_of_mem_toDigits (by decide) (by decide) hc
  nonempty := Nat.toDigits_ne_nil
  leading := by
    intro c cs h
    have digits : ∀ d ∈ Nat.toDigits 10 n, d.isDigit = true := fun d hd =>
      Nat.isDigit_of_mem_toDigits (by decide) (by decide) hd
    rw [h] at digits
    -- Without the zero there would be a shorter text for the same number.
    have value := Nat.ofDigitChars_ten_toDigits (n := n)
    rw [h, Nat.ofDigitChars_cons] at value
    have below := ofDigitChars_lt fun d hd => digits d (List.mem_cons_of_mem '0' hd)
    have short := (Nat.length_toDigits_le_iff (b := 10) (k := (c :: cs).length) (by decide)
      (by simp)).2 (value ▸ below)
    rw [h] at short
    simp at short

theorem IsWhole.exists_cons {ds : List Char} (h : IsWhole ds) :
    ∃ c cs, ds = c :: cs ∧ c.isDigit = true := by
  cases ds with
  | nil => exact absurd rfl h.nonempty
  | cons c cs => exact ⟨c, cs, rfl, h.digits c List.mem_cons_self⟩

theorem toDigits_ne_zero {n : Nat} (pos : n ≠ 0) (cs : List Char) :
    Nat.toDigits 10 n ≠ '0' :: cs := by
  intro h
  cases cs with
  | nil =>
      have value := Nat.ofDigitChars_ten_toDigits (n := n)
      rw [h] at value
      exact pos value.symm
  | cons c cs => exact (isWhole_toDigits n).leading c cs h

/-- How a number goes on behind digits that fit 64 bits. -/
def readTail (positive : Bool) (n : Nat) (cs : List Char) : Reading (Number × List Char) :=
  match cs with
  | '.' :: rest => (readFraction positive n 0 rest).map fun p => (.float p.1, p.2)
  | 'e' :: _ => (readScale positive n 0 cs).map fun p => (.float p.1, p.2)
  | 'E' :: _ => (readScale positive n 0 cs).map fun p => (.float p.1, p.2)
  | _ => .ok (wholeNumber positive n, cs)

theorem IsWhole.readNumber_eq {ds rest : List Char} (h : IsWhole ds) (positive : Bool)
    (fits : Nat.ofDigitChars 10 ds 0 < UInt64.size)
    (stops : ∀ c ∈ rest.head?, c.isDigit = false) :
    readNumber positive (ds ++ rest) = readTail positive (Nat.ofDigitChars 10 ds 0) rest := by
  rw [readNumber, spanDigits_append h.digits stops]
  split
  · rename_i empty
    cases empty
    exact absurd rfl h.nonempty
  · rename_i empty
    cases empty
    exact absurd rfl h.nonempty
  · rename_i zero
    cases zero
    exact absurd rfl (h.leading _ _)
  · rename_i parts
    cases parts
    rw [gather_of_lt fits]
    unfold readTail
    dsimp only [List.length_nil]
    split
    · rfl
    · split
      · rfl
      · rfl
      · rename_i small large _ point
        split
        · exact absurd rfl (point _)
        · exact absurd rfl (small _)
        · exact absurd rfl (large _)
        · rfl
      · rename_i beyond _ _ _ _
        exact absurd rfl beyond

/-- A whole number that fits 64 bits. -/
theorem IsWhole.readNumber {ds rest : List Char} (h : IsWhole ds) (positive : Bool)
    (fits : Nat.ofDigitChars 10 ds 0 < UInt64.size) (ends : Delimited rest) :
    readNumber positive (ds ++ rest) =
      .ok (wholeNumber positive (Nat.ofDigitChars 10 ds 0), rest) := by
  rw [h.readNumber_eq positive fits ends.not_digit]
  unfold readTail
  split
  · rcases ends '.' rfl with h | h | h <;> cases h
  · rcases ends 'e' rfl with h | h | h <;> cases h
  · rcases ends 'E' rfl with h | h | h <;> cases h
  · rfl

/-- A whole number that fits 128 bits. -/
theorem IsWhole.readLongNatural {ds rest : List Char} (h : IsWhole ds)
    (fits : Nat.ofDigitChars 10 ds 0 < UInt64.size * UInt64.size) (ends : Delimited rest) :
    readLongNatural (ds ++ rest) = .ok (BitVec.ofNat 128 (Nat.ofDigitChars 10 ds 0), rest) := by
  rw [Json.readLongNatural, spanDigits_append h.digits ends.not_digit]
  split
  · rename_i empty
    cases empty
    exact absurd rfl h.nonempty
  · rename_i zero
    cases zero
    exact absurd rfl (h.leading _ _)
  · rename_i parts
    cases parts
    rw [gather_of_lt fits]

/-! ## Decoders -/

theorem toList_natural (n : Nat) : (natural n).toList = Nat.toDigits 10 n :=
  Nat.toList_repr

theorem IsWhole.starts {ds : List Char} (h : IsWhole ds) : Starts ds := by
  obtain ⟨c, cs, rfl, digit⟩ := h.exists_cons
  refine ⟨c, cs, rfl, isBlank_of_isDigit digit, ?_⟩
  rintro rfl
  cases digit

theorem reads_natural64 (n : UInt64) : Reads decodeNat64 0 (natural n.toNat).toList n where
  starts := by
    rw [toList_natural]
    exact (isWhole_toDigits n.toNat).starts
  read := by
    intro depth rest _ ends
    have whole := isWhole_toDigits n.toNat
    have read := whole.readNumber true
      (by rw [Nat.ofDigitChars_ten_toDigits]; exact n.toNat_lt) ends
    rw [Nat.ofDigitChars_ten_toDigits] at read
    rw [toList_natural, decodeNat64, whole.starts.skipBlank]
    obtain ⟨c, cs, written, digit⟩ := whole.exists_cons
    rw [written, List.cons_append] at read ⊢
    split
    · rename_i empty
      cases empty
    · rename_i minus
      cases minus
      cases digit
    · rename_i front
      cases front
      rw [if_pos digit, read]
      simp only [bind, Except.bind, wholeNumber, ↓reduceIte, Nat.toUInt64_eq, UInt64.ofNat_toNat]

theorem reads_natural128 (n : BitVec 128) :
    Reads decodeNat128 0 (natural n.toNat).toList n where
  starts := by
    rw [toList_natural]
    exact (isWhole_toDigits n.toNat).starts
  read := by
    intro depth rest _ ends
    have whole := isWhole_toDigits n.toNat
    rw [toList_natural, decodeNat128, whole.starts.skipBlank]
    split
    · rename_i empty
      exact absurd (List.append_eq_nil_iff.1 empty).1 whole.nonempty
    · rw [whole.readLongNatural (by rw [Nat.ofDigitChars_ten_toDigits]; exact n.isLt) ends,
        Nat.ofDigitChars_ten_toDigits, BitVec.ofNat_toNat, BitVec.setWidth_eq]

/-! ## Numbers among values -/

theorem readValue_digit {c : Char} (digit : c.isDigit = true) (depth : Nat) (cs : List Char) :
    readValue depth (c :: cs) = (readNumber true (c :: cs)).map fun p => (.number p.1, p.2) := by
  unfold readValue
  rw [skipBlank_cons (isBlank_of_isDigit digit)]
  split
  case h_9 front =>
      cases front
      rw [if_pos digit]
      cases readNumber true (c :: cs) <;> rfl
  all_goals
    rename_i front
    cases front <;> cases digit

theorem readValue_minus (depth : Nat) (cs : List Char) :
    readValue depth ('-' :: cs) = (readNumber false cs).map fun p => (.number p.1, p.2) := by
  have front : skipBlank ('-' :: cs) = '-' :: cs := skipBlank_cons (by decide) cs
  cases read : readNumber false cs <;> simp [readValue, front, read, Except.map]

theorem reads_natural {n : Nat} (fits : n < UInt64.size) :
    Reads readValue 0 (natural n).toList (.number (.natural n.toUInt64)) where
  starts := by
    rw [toList_natural]
    exact (isWhole_toDigits n).starts
  read := by
    intro depth rest _ ends
    have whole := isWhole_toDigits n
    have read := whole.readNumber true (by rwa [Nat.ofDigitChars_ten_toDigits]) ends
    rw [Nat.ofDigitChars_ten_toDigits] at read
    rw [toList_natural]
    obtain ⟨c, cs, written, digit⟩ := whole.exists_cons
    rw [written, List.cons_append] at read ⊢
    rw [readValue_digit digit, read]
    rfl

theorem reads_negative {n : Nat} (pos : 0 < n) (fits : n ≤ UInt64.size / 2) :
    Reads readValue 0 ('-' :: Nat.toDigits 10 n)
      (.number (.negative (-(n : Int)).toInt64)) where
  starts := ⟨'-', _, rfl, by decide, by decide⟩
  read := by
    intro depth rest _ ends
    have read := (isWhole_toDigits n).readNumber false
      (by rw [Nat.ofDigitChars_ten_toDigits]; exact Nat.lt_of_le_of_lt fits (by decide)) ends
    rw [Nat.ofDigitChars_ten_toDigits] at read
    have whole : wholeNumber false n = .negative (-(n : Int)).toInt64 := by
      rw [wholeNumber, if_neg (by decide), if_neg (by omega)]
    rw [List.cons_append, readValue_minus, read, whole]
    rfl

end Telemetry.Json
