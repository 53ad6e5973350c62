import Telemetry.Proofs.Decimal.Rounding
import Telemetry.Proofs.Decimal.Shortest
import Telemetry.Proofs.Json.Whole

set_option autoImplicit false

/-! # Written floats stay in range when they are read

The reader refuses a float whose digits scale to an infinity, and it is not exact. A written float
is at most half a step above the float itself, which leaves room for the errors of the reader, but
for the six largest floats. What is written for these is read here one by one. -/

namespace Telemetry.Decimal

open Float.Model Float.Model.UnpackedFloat

/-! ## The parts of a finite float -/

theorem exponent_of_isFinite {x : Float} (finite : x.isFinite = true) :
    x.toBits.toNat % (UInt64.size / 2) / fractionCount < 2047 := by
  have field : (@unpackExponent Format.binary64 x.toModel.toBits.toBitVec).toNat =
      x.toBits.toNat % (UInt64.size / 2) / fractionCount := by
    change _ = x.toModel.toBits.toNat % 9223372036854775808 / 4503599627370496
    simp only [unpackExponent, BitVec.toNat_cast, BitVec.extractLsb_toNat,
      UInt64.toNat_toBitVec, Nat.shiftRight_eq_div_pow]
    omega
  have bits : (@unpackExponent Format.binary64 x.toModel.toBits.toBitVec).toNat < 2048 :=
    BitVec.isLt _
  by_contra large
  have last : @unpackExponent Format.binary64 x.toModel.toBits.toBitVec = -1#11 := by
    apply BitVec.eq_of_toNat_eq
    change _ = 2047
    omega
  unfold Float.isFinite Float.Model.isFinite Float.Model.unpack UnpackedFloat.unpack at finite
  simp only [last, ↓reduceIte] at finite
  split at finite <;> cases finite

/-- The mantissa of a finite float has 53 bits, and its last place is between that of the smallest
and that of the largest float. Only a power of two has a smaller gap below. -/
theorem ofFloat_bounds {x : Float} (finite : x.isFinite = true) :
    (Binary.ofFloat x).m < 2 ^ 53 ∧ -1074 ≤ (Binary.ofFloat x).q ∧ (Binary.ofFloat x).q ≤ 971 ∧
      (2 ^ 52 < (Binary.ofFloat x).m → (Binary.ofFloat x).narrowBelow = false) := by
  have exponent := exponent_of_isFinite finite
  have fraction : x.toBits.toNat % (UInt64.size / 2) % fractionCount < fractionCount :=
    Nat.mod_lt _ (by decide)
  have count : fractionCount = 2 ^ 52 := rfl
  simp only [Binary.ofFloat]
  generalize x.toBits.toNat % (UInt64.size / 2) / fractionCount = e at exponent
  generalize x.toBits.toNat % (UInt64.size / 2) % fractionCount = f at fraction
  split
  · simp only
    omega
  · simp only [Bool.and_eq_false_imp, beq_iff_eq]
    omega

/-! ## Scaling -/

theorem exists_scaleBy_of_neg (f : Float) {e : Int} (neg : e < 0) (steps : Nat) :
    ∃ y, Json.scaleBy f e steps = .ok y := by
  induction steps generalizing f e with
  | zero => exact ⟨f, rfl⟩
  | succ steps ih =>
      rw [Json.scaleBy]
      split
      · exact ⟨_, if_neg (by omega)⟩
      · split
        · exact ⟨f, rfl⟩
        · rw [if_neg (by omega)]
          exact ih _ (by omega)

theorem floatOf_eq_map (positive : Bool) (n : Nat) (e : Int) :
    Json.floatOf positive n e =
      (Json.floatOf true n e).map fun f => if positive then f else -f := by
  unfold Json.floatOf
  cases Json.scaleBy n.toUInt64.toFloat e (e.natAbs / 308 + 1) <;> rfl

theorem exists_floatOf_of_neg (n : Nat) {e : Int} (neg : e < 0) :
    ∃ y, Json.floatOf true n e = .ok y := by
  obtain ⟨y, scaled⟩ := exists_scaleBy_of_neg n.toUInt64.toFloat neg (e.natAbs / 308 + 1)
  rw [Json.floatOf, scaled]
  exact ⟨y, rfl⟩

/-- Digits that keep away from 2^1024 scale to a float. -/
theorem exists_floatOf {n : Nat} {e : Int} (pos : n ≠ 0) (fits : n < UInt64.size)
    (below : (n : ℚ) * 10 ^ e * (1 + 1 / 2 ^ 52) ^ 3 < 2 ^ 1024) :
    ∃ y, Json.floatOf true n e = .ok y := by
  by_cases neg : e < 0
  · exact exists_floatOf_of_neg n neg
  · obtain ⟨k, rfl⟩ := Int.eq_ofNat_of_zero_le (not_lt.1 neg)
    rw [zpow_natCast] at below
    have small : k ≤ 308 := by
      -- Already 10^309 is above 2^1024.
      by_contra large
      have one : (1 : ℚ) ≤ n := by exact_mod_cast Nat.one_le_iff_ne_zero.2 pos
      have largest : 2 ^ 1024 < 10 ^ 309 := by decide +kernel
      have largest : (2 : ℚ) ^ 1024 < 10 ^ 309 := by exact_mod_cast largest
      have : (10 : ℚ) ^ 309 ≤ n * 10 ^ k * (1 + 1 / 2 ^ 52) ^ 3 := by
        calc (10 : ℚ) ^ 309 ≤ 10 ^ k := pow_le_pow_right₀ (by norm_num) (by omega)
          _ = 1 * 10 ^ k * 1 := by ring
          _ ≤ n * 10 ^ k * (1 + 1 / 2 ^ 52) ^ 3 := by
            gcongr
            norm_num
      exact lt_irrefl _ (below.trans (largest.trans_le this))
    have finite := isInf_scaled pos fits small below
    refine ⟨n.toUInt64.toFloat * Json.powerOfTen k, ?_⟩
    rw [Json.floatOf, Json.scaleBy]
    simp only [Int.natAbs_natCast, small, ↓reduceIte, Int.natCast_nonneg, finite,
      Bool.false_eq_true]
    rfl

/-! ## Reading the digits of a decimal -/

/-- The float that the reader makes of the digits of a decimal. -/
def Scaled.reread (d : Scaled) : Json.Reading Float :=
  let gathered := Json.gather UInt64.size 0 (digitsOf d.digits)
  Json.floatOf true gathered.1 (d.exp + gathered.2.length)

/-- The exponent of the first digit. -/
def Scaled.lead (d : Scaled) : Int :=
  d.exp + (digitsOf d.digits).length - 1

theorem pow_le_of_digits {n : Nat} (pos : n ≠ 0) : 10 ^ ((digitsOf n).length - 1) ≤ n := by
  by_contra small
  rcases Nat.eq_zero_or_pos ((digitsOf n).length - 1) with one | more
  · rw [one] at small
    omega
  · have := (Nat.length_toDigits_le_iff (b := 10) (by decide) more).2 (not_le.1 small)
    rw [digitsOf] at *
    omega

/-- The first digit of a decimal always fits, so what is gathered is not zero. -/
theorem gather_digits {n : Nat} (pos : n ≠ 0) :
    ∃ left, Json.gather UInt64.size 0 (digitsOf n) = (n / 10 ^ left.length, left) ∧
      left.length < (digitsOf n).length ∧ n / 10 ^ left.length ≠ 0 ∧
      n / 10 ^ left.length < UInt64.size := by
  have whole := Json.isWhole_toDigits n
  obtain ⟨c, cs, written, digit⟩ := whole.exists_cons
  have first := Json.digitValue_lt digit
  have value := Nat.ofDigitChars_ten_toDigits (n := n)
  have least := pow_le_of_digits pos
  rw [digitsOf, written] at least ⊢
  rw [written, Nat.ofDigitChars_cons, Nat.mul_comm, ← Json.digitValue] at value
  have size : 10 < UInt64.size := by decide
  have fits : 0 * 10 + Json.digitValue c < UInt64.size := by omega
  obtain ⟨left, gathered, length, below⟩ := Json.gather_spec
    (fun d hd => whole.digits d (written ▸ List.mem_cons_of_mem c hd)) fits
  rw [value] at gathered below
  refine ⟨left, ?_, Nat.lt_succ_of_le length, ?_, below⟩
  · rw [Json.gather_cons_of_lt cs fits, gathered]
  · have : 10 ^ left.length ≤ n := Nat.le_trans (Nat.pow_le_pow_right (by decide) length) least
    exact (Nat.div_pos this (Nat.pow_pos (by decide))).ne'

theorem Binary.Near.reread {x : Binary} {d : Scaled} (h : x.Near d)
    (below : x.midpoint * (1 + 1 / 2 ^ 52) ^ 3 < 2 ^ 1024) : ∃ y, d.reread = .ok y := by
  obtain ⟨left, gathered, -, pos, fits⟩ := gather_digits h.pos
  rw [Scaled.reread, gathered]
  refine exists_floatOf pos fits (lt_of_le_of_lt ?_ below)
  -- Digits that do not fit are cut off, which makes the number smaller.
  have cut : ((d.digits / 10 ^ left.length : Nat) : ℚ) * 10 ^ left.length ≤ d.digits := by
    exact_mod_cast Nat.div_mul_le_self d.digits (10 ^ left.length)
  have value : ((d.digits / 10 ^ left.length : Nat) : ℚ) * 10 ^ (d.exp + left.length) ≤
      x.midpoint := by
    calc ((d.digits / 10 ^ left.length : Nat) : ℚ) * 10 ^ (d.exp + left.length)
        = (d.digits / 10 ^ left.length : Nat) * 10 ^ left.length * 10 ^ d.exp := by
          rw [zpow_add₀ (by norm_num), zpow_natCast]
          ring
      _ ≤ d.digits * 10 ^ d.exp := by gcongr
      _ ≤ x.midpoint := h.value_le
  gcongr

/-- The six largest floats come too near to 2^1024 for the general bound. -/
theorem reread_largest : ∀ i < 6,
    (Binary.shortest ⟨2 ^ 53 - 1 - i, 971, false⟩ .toEven).reread.isOk = true := by
  decide +kernel

/-- Below the six largest floats there is room for the errors of the reader. -/
theorem midpoint_lt {x : Binary} (mantissa : x.m < 2 ^ 53) (exponent : x.q ≤ 971)
    (room : x.q = 971 → x.m ≤ 2 ^ 53 - 7) :
    x.midpoint * (1 + 1 / 2 ^ 52) ^ 3 < 2 ^ 1024 := by
  have most : x.midpoint ≤ (4 * (2 ^ 53 - 7) + 2) * 2 ^ 969 := by
    rw [Binary.midpoint]
    by_cases last : x.q = 971
    · have m : (x.m : ℚ) ≤ (2 ^ 53 - 7 : Nat) := by exact_mod_cast room last
      have m : (x.m : ℚ) ≤ 2 ^ 53 - 7 := m.trans (by norm_num)
      rw [last, show (971 - 2 : Int) = (969 : Nat) from rfl, zpow_natCast]
      gcongr
    · have m : (x.m : ℚ) ≤ 2 ^ 53 := by exact_mod_cast mantissa.le
      calc (4 * (x.m : ℚ) + 2) * 2 ^ (x.q - 2) ≤ (4 * 2 ^ 53 + 2) * 2 ^ ((968 : Nat) : Int) := by
            gcongr
            · norm_num
            · omega
        _ ≤ (4 * (2 ^ 53 - 7) + 2) * 2 ^ 969 := by
            rw [zpow_natCast, pow_succ' 2 968, ← mul_assoc]
            gcongr
            norm_num
  calc x.midpoint * (1 + 1 / 2 ^ 52) ^ 3
      ≤ (4 * (2 ^ 53 - 7) + 2) * 2 ^ 969 * (1 + 1 / 2 ^ 52) ^ 3 := by gcongr
    _ = (4 * (2 ^ 53 - 7) + 2) * (1 + 1 / 2 ^ 52) ^ 3 * 2 ^ 969 := mul_right_comm _ _ _
    _ < 2 ^ 55 * 2 ^ 969 := by
        gcongr
        norm_num
    _ = 2 ^ 1024 := by rw [← pow_add]

/-- The shortest decimal of a finite float is read as a float. -/
theorem exists_reread {x : Float} (finite : x.isFinite = true) (pos : (Binary.ofFloat x).m ≠ 0) :
    ∃ y, ((Binary.ofFloat x).shortest .toEven).reread = .ok y := by
  obtain ⟨mantissa, low, high, wide⟩ := ofFloat_bounds finite
  by_cases largest : (Binary.ofFloat x).q = 971 ∧ 2 ^ 53 - 7 < (Binary.ofFloat x).m
  · have parts : Binary.ofFloat x =
        ⟨2 ^ 53 - 1 - (2 ^ 53 - 1 - (Binary.ofFloat x).m), 971, false⟩ := by
      have narrow := wide (by omega)
      have sub : 2 ^ 53 - 1 - (2 ^ 53 - 1 - (Binary.ofFloat x).m) = (Binary.ofFloat x).m := by omega
      rw [sub, ← largest.1, ← narrow]
    have read := reread_largest (2 ^ 53 - 1 - (Binary.ofFloat x).m) (by omega)
    rw [← parts] at read
    cases result : ((Binary.ofFloat x).shortest .toEven).reread with
    | ok y => exact ⟨y, rfl⟩
    | error fault =>
        rw [result] at read
        cases read
  · exact (Binary.near_shortest .toEven pos low).reread
      (midpoint_lt mantissa high fun last => by omega)

/-- The exponent of the first digit of a finite float has at most four digits. -/
theorem exponent_bounds {x : Float} {d : Scaled} (finite : x.isFinite = true)
    (near : (Binary.ofFloat x).Near d) :
    -1074 ≤ d.lead ∧ d.lead ≤ 308 := by
  rw [Scaled.lead]
  obtain ⟨mantissa, -, high, -⟩ := ofFloat_bounds finite
  have some : 0 < (digitsOf d.digits).length := Nat.length_toDigits_pos
  have exp := near.exp_ge
  refine ⟨by omega, ?_⟩
  by_contra large
  have least : (10 : ℚ) ^ ((digitsOf d.digits).length - 1) ≤ d.digits := by
    exact_mod_cast pow_le_of_digits near.pos
  have largest : (2 ^ 55 * 2 ^ 969 : Nat) < 10 ^ 309 := by decide +kernel
  have largest : (2 : ℚ) ^ 55 * 2 ^ 969 < 10 ^ 309 := by exact_mod_cast largest
  have : (10 : ℚ) ^ 309 ≤ 2 ^ 55 * 2 ^ 969 := by
    calc (10 : ℚ) ^ 309 ≤ 10 ^ (d.exp + ((digitsOf d.digits).length - 1 : Nat)) := by
          rw [← zpow_natCast]
          exact zpow_le_zpow_right₀ (by norm_num) (by omega)
      _ = 10 ^ ((digitsOf d.digits).length - 1) * 10 ^ d.exp := by
          rw [zpow_add₀ (by norm_num), zpow_natCast, mul_comm]
      _ ≤ d.digits * 10 ^ d.exp := by gcongr
      _ ≤ (Binary.ofFloat x).midpoint := near.value_le
      _ ≤ 2 ^ 55 * 2 ^ 969 := by
          have m : ((Binary.ofFloat x).m : ℚ) ≤ 2 ^ 53 - 1 := by
            have : ((Binary.ofFloat x).m : ℚ) + 1 ≤ 2 ^ 53 := by exact_mod_cast mantissa
            linarith
          rw [Binary.midpoint, ← zpow_natCast 2 969]
          gcongr
          · linarith
          · norm_num
          · omega
  exact absurd largest (not_lt.2 this)

end Telemetry.Decimal
