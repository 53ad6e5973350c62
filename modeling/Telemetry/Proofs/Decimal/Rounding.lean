import Mathlib.Algebra.Order.Field.Power
import Mathlib.Algebra.Order.Ring.Rat
import Mathlib.Tactic.FieldSimp
import Mathlib.Tactic.Linarith
import Mathlib.Tactic.NormNum
import Mathlib.Tactic.Positivity
import Mathlib.Tactic.Ring
import Telemetry.Json.Number

set_option autoImplicit false

/-! # Scaling by a power of ten stays in range

A rounded product is at most one part in 2^52 larger than the exact one, and so are the factors, a
significand and a power of ten that are rounded themselves. So if the exact decimal keeps a small
distance from 2^1024, its float is no infinity. Subnormal numbers cannot occur on the way: the
mantissas have all their 53 bits from the beginning. -/

namespace Telemetry.Decimal

open Float.Model Float.Model.UnpackedFloat

/-! ## One rounding -/

theorem shift_mantissa (em : ExtendedMantissa) (k : Nat) :
    (em >>> k).mantissa = em.mantissa / 2 ^ k := by
  induction k generalizing em with
  | zero => simp [HShiftRight.hShiftRight, Nat.repeat]
  | succ k ih =>
      change (em >>> k).mantissa / 2 = _
      rw [ih, Nat.div_div_eq_div_mul, Nat.pow_succ]

theorem roundedMantissa_le (em : ExtendedMantissa) :
    em.mantissa ≤ em.roundedMantissa ∧ em.roundedMantissa ≤ em.mantissa + 1 := by
  obtain ⟨m, r, s⟩ := em
  cases r <;> cases s <;>
    simp only [ExtendedMantissa.roundedMantissa, ExtendedMantissa.accuracy,
      Accuracy.roundToNearestEven] <;> omega

/-- Shifting out zeros leaves nothing to round. -/
theorem shift_mul_pow (c k : Nat) :
    ExtendedMantissa.mk (c * 2 ^ k) false false >>> k = ExtendedMantissa.mk c false false := by
  induction k generalizing c with
  | zero => rw [pow_zero, mul_one]; rfl
  | succ k ih =>
      have half : c * 2 ^ (k + 1) = c * 2 * 2 ^ k := by ring
      change (ExtendedMantissa.mk (c * 2 ^ (k + 1)) false false >>> k).shiftRightOne = _
      rw [half, ih]
      simp [ExtendedMantissa.shiftRightOne]

/-- Rounding does not go past a multiple of the last place. -/
theorem roundedMantissa_shift_le {m c k : Nat} (le : m ≤ c * 2 ^ k) :
    (ExtendedMantissa.mk m false false >>> k).roundedMantissa ≤ c := by
  rcases le.lt_or_eq with below | rfl
  · have cut : m / 2 ^ k < c := (Nat.div_lt_iff_lt_mul (by positivity)).2 below
    have up := (roundedMantissa_le (ExtendedMantissa.mk m false false >>> k)).2
    rw [shift_mantissa] at up
    exact up.trans cut
  · rw [shift_mul_pow]
    rfl

/-- The last place of a number: its mantissa gets 53 bits, fewer if that would be below 2^-1074. -/
theorem targetExponent_eq (m : Nat) (e : Int) :
    Format.binary64.targetExponent (totalExponent m e) =
      max ((m.log2 + 1 : Nat) + e - 53) (-1074) :=
  rfl

/-- A mantissa of at least 53 bits is shifted to 53 bits if the number is not too small. -/
theorem shiftToTargetExponent_eq {m : Nat} {e : Int} (wide : 52 ≤ m.log2) (normal : -1074 ≤ e) :
    shiftToTargetExponent Format.binary64 m e .exact =
      (ExtendedMantissa.mk m false false >>> (m.log2 - 52), e + (m.log2 - 52 : Nat)) := by
  have target : (Format.binary64.targetExponent (totalExponent m e) - e).toNat =
      m.log2 - 52 := by
    rw [targetExponent_eq]
    omega
  unfold shiftToTargetExponent shiftToExponent
  dsimp only
  rw [target]
  rfl

theorem div_pow_log2 {m : Nat} (wide : 52 ≤ m.log2) :
    2 ^ 52 ≤ m / 2 ^ (m.log2 - 52) ∧ m / 2 ^ (m.log2 - 52) < 2 ^ 53 := by
  have pos : m ≠ 0 := by
    rintro rfl
    simp at wide
  constructor
  · rw [Nat.le_div_iff_mul_le (by positivity), ← Nat.pow_add, Nat.add_sub_cancel' wide]
    exact Nat.log2_self_le pos
  · rw [Nat.div_lt_iff_lt_mul (by positivity), ← Nat.pow_add]
    have := Nat.lt_log2_self (n := m)
    rwa [show 53 + (m.log2 - 52) = m.log2 + 1 by omega]

/-- A number with at least 53 bits is rounded to 53 bits. Its leading bit does not move down, and it
does not go past a multiple of its last place. -/
theorem roundWithAccuracy_wide (s : Sign) {m : Nat} {e : Int} (wide : 52 ≤ m.log2)
    (normal : -1074 ≤ e) :
    ∃ (m' k : Nat) (pos : 0 < m'),
      roundWithAccuracy Format.binary64 s m e .exact = .finite s m' (e + k) pos ∧
        m'.log2 = 52 ∧ m.log2 ≤ 52 + k ∧
        ∀ c, m ≤ c * 2 ^ (m.log2 - 52) → m' * 2 ^ k ≤ c * 2 ^ (m.log2 - 52) := by
  -- The first shift leaves 53 bits. Rounding up may make them 54, which the second shift undoes.
  obtain ⟨low, -⟩ := div_pow_log2 wide
  let k₁ := m.log2 - 52
  let r := (ExtendedMantissa.mk m false false >>> k₁).roundedMantissa
  have rounded := roundedMantissa_le (ExtendedMantissa.mk m false false >>> k₁)
  rw [shift_mantissa] at rounded
  have least : 2 ^ 52 ≤ r := Nat.le_trans low rounded.1
  have wide' : 52 ≤ r.log2 := (Nat.le_log2 (by omega)).2 least
  let k₂ := r.log2 - 52
  obtain ⟨low', high'⟩ := div_pow_log2 wide'
  have pos : 0 < r / 2 ^ k₂ := Nat.lt_of_lt_of_le (by positivity) low'
  refine ⟨r / 2 ^ k₂, k₁ + k₂, pos, ?_, ?_, by omega, fun c le => ?_⟩
  · unfold roundWithAccuracy
    rw [shiftToTargetExponent_eq wide normal]
    dsimp only
    rw [shiftToTargetExponent_eq wide' (by omega)]
    dsimp only
    rw [dif_neg (by rw [shift_mantissa]; exact pos.ne'), UnpackedFloat.finite.injEq]
    refine ⟨rfl, shift_mantissa _ _, ?_⟩
    push_cast
    ring
  · exact (Nat.log2_eq_iff pos.ne').2 ⟨low', high'⟩
  · have carry : r / 2 ^ k₂ * 2 ^ k₂ ≤ r := Nat.div_mul_le_self r _
    calc r / 2 ^ k₂ * 2 ^ (k₁ + k₂) = r / 2 ^ k₂ * 2 ^ k₂ * 2 ^ k₁ := by rw [Nat.pow_add]; ring
      _ ≤ r * 2 ^ k₁ := by gcongr
      _ ≤ c * 2 ^ k₁ := by gcongr; exact roundedMantissa_shift_le le

/-- A number with at least 53 bits goes at most one part in 2^52 up. -/
theorem mul_le_of_last_place {m x : Nat} (wide : 52 ≤ m.log2)
    (rounded : ∀ c, m ≤ c * 2 ^ (m.log2 - 52) → x ≤ c * 2 ^ (m.log2 - 52)) :
    x * 2 ^ 52 ≤ m * (2 ^ 52 + 1) := by
  let k := m.log2 - 52
  have next : m ≤ (m / 2 ^ k + 1) * 2 ^ k := (Nat.lt_div_mul_add (by positivity)).le.trans
    (Nat.add_one_mul (m / 2 ^ k) (2 ^ k)).ge
  have cut : m / 2 ^ k * 2 ^ k ≤ m := Nat.div_mul_le_self m _
  have ulp : 2 ^ k * 2 ^ 52 ≤ m := by
    rw [← Nat.pow_add, Nat.sub_add_cancel wide]
    exact Nat.log2_self_le (by rintro rfl; simp at wide)
  calc x * 2 ^ 52 ≤ (m / 2 ^ k + 1) * 2 ^ k * 2 ^ 52 := by gcongr; exact rounded _ next
    _ = m / 2 ^ k * 2 ^ k * 2 ^ 52 + 2 ^ k * 2 ^ 52 := by ring
    _ ≤ m * 2 ^ 52 + m := by gcongr
    _ = m * (2 ^ 52 + 1) := by ring

/-! ## Packing -/

/-- A mantissa whose leading bit is not stored. -/
theorem toNat_leadingOne (m : BitVec 52) : (1#1 ++ m).toNat = 2 ^ 52 + m.toNat := by
  rw [BitVec.toNat_append, ← Nat.shiftLeft_add_eq_or_of_lt m.isLt, Nat.shiftLeft_eq]
  rfl

/-- The sign is the first bit. -/
theorem unpackSign_packComponents (s : Sign) (x : BitVec 11) (m : BitVec 52) :
    Sign.ofBitVec (@unpackSign Format.binary64 (packComponents Format.binary64 s x m)) = s := by
  have first : @unpackSign Format.binary64 (packComponents Format.binary64 s x m) = s.toBitVec := by
    change (s.toBitVec ++ x ++ m).extractLsb' 63 1 = s.toBitVec
    rw [BitVec.extractLsb'_append_eq_of_le (by decide),
      BitVec.extractLsb'_append_eq_of_le (by decide)]
    exact BitVec.extractLsb'_eq_self
  rw [first]
  cases s <;> rfl

/-- Reading back the fields of a float that is neither subnormal nor infinite. -/
theorem unpack_packComponents (s : Sign) {x : BitVec 11} {m : BitVec 52} (first : x ≠ 0#11)
    (last : x ≠ -1#11) (pos : 0 < (1#1 ++ m).toNat) :
    UnpackedFloat.unpack Format.binary64 (packComponents Format.binary64 s x m) =
      .finite s (1#1 ++ m).toNat (x.toNat - ((1023 : Nat) + (52 : Nat))) pos := by
  have fields (b : BitVec 64) (mantissa : @unpackMantissa Format.binary64 b = m)
      (exponent : @unpackExponent Format.binary64 b = x)
      (sign : Sign.ofBitVec (@unpackSign Format.binary64 b) = s) :
      UnpackedFloat.unpack Format.binary64 b =
        .finite s (1#1 ++ m).toNat (x.toNat - ((1023 : Nat) + (52 : Nat))) pos := by
    subst mantissa exponent sign
    unfold UnpackedFloat.unpack
    dsimp only
    rw [if_neg last, if_neg first]
    rfl
  exact fields _ unpackMantissa_packComponents unpackExponent_packComponents
    (unpackSign_packComponents s x m)

/-- A number of 53 bits is stored as it is. -/
theorem unpack_pack (s : Sign) {m : Nat} {e : Int} (pos : 0 < m) (bits : m.log2 = 52)
    (low : -1074 ≤ e) (high : e ≤ 971) :
    (Float.Model.pack (.finite s m e pos)).unpack = .finite s m e pos := by
  obtain ⟨least, most⟩ := (Nat.log2_eq_iff pos.ne').1 bits
  have exponent : (BitVec.ofNat 11 (e + 1075).toNat).toNat = (e + 1075).toNat :=
    Nat.mod_eq_of_lt (by omega)
  have notFirst : BitVec.ofNat 11 (e + 1075).toNat ≠ 0#11 := by
    rw [ne_eq, ← BitVec.toNat_inj, exponent, BitVec.toNat_ofNat]
    omega
  have notLast : BitVec.ofNat 11 (e + 1075).toNat ≠ -1#11 := by
    rw [ne_eq, ← BitVec.toNat_inj, exponent]
    simp only [BitVec.reduceNeg, BitVec.toNat_ofNat, Nat.reducePow]
    omega
  have mantissa : (1#1 ++ BitVec.ofNat 52 m).toNat = m := by
    rw [toNat_leadingOne, BitVec.toNat_ofNat]
    omega
  have biased : (e + Format.binary64.exponentBias +
      Format.binary64.mantissaBitsWithoutImplicit).toNat = (e + 1075).toNat := by
    change (e + (1023 : Nat) + (52 : Nat)).toNat = _
    omega
  have packed : UnpackedFloat.pack Format.binary64 (.finite s m e pos) =
      packComponents Format.binary64 s (BitVec.ofNat 11 (e + 1075).toNat) (BitVec.ofNat 52 m) := by
    change ite (2 ^ 11 ≤ _ + 1) _ (ite (m.log2 + 1 = 53) _ _) = _
    rw [biased, bits, if_neg (by omega), if_pos rfl]
  refine Eq.trans (congrArg (UnpackedFloat.unpack Format.binary64) packed) ?_
  rw [unpack_packComponents s notFirst notLast (by rwa [mantissa]), UnpackedFloat.finite.injEq]
  exact ⟨rfl, mantissa, by omega⟩

/-! ## Bounds on floats -/

/-- A float that is finite and not subnormal: a mantissa of 53 bits times a power of two. Its
magnitude is at most `u`, and the exponent of its last place is at least `low`. -/
def Bounded (f : Float) (u : ℚ) (low : Int) : Prop :=
  ∃ s m e pos, f.toModel.unpack = .finite s m e pos ∧ m.log2 = 52 ∧ low ≤ e ∧ (m : ℚ) * 2 ^ e ≤ u

theorem Bounded.not_isInf {f : Float} {u : ℚ} {low : Int} (h : Bounded f u low) :
    f.isInf = false := by
  obtain ⟨s, m, e, pos, unpacked, -⟩ := h
  unfold Float.isInf Float.Model.isInf
  rw [unpacked]
  rfl

/-- Rounding a number of at least 53 bits that stays below 2^1024. -/
theorem bounded_round (s : Sign) {m : Nat} {e : Int} (wide : 52 ≤ m.log2) (normal : -1074 ≤ e)
    (below : (m : ℚ) * 2 ^ e * (1 + 1 / 2 ^ 52) < 2 ^ 1024) :
    Bounded (.ofModel (.pack (roundWithAccuracy Format.binary64 s m e .exact)))
      ((m : ℚ) * 2 ^ e * (1 + 1 / 2 ^ 52)) e := by
  obtain ⟨m', k, pos, rounded, bits, -, up⟩ := roundWithAccuracy_wide s wide normal
  have up : (m' : ℚ) * 2 ^ k * 2 ^ 52 ≤ m * (2 ^ 52 + 1) := by
    exact_mod_cast mul_le_of_last_place wide up
  have value : (m' : ℚ) * 2 ^ (e + k) ≤ m * 2 ^ e * (1 + 1 / 2 ^ 52) := by
    calc (m' : ℚ) * 2 ^ (e + k) = m' * 2 ^ k * 2 ^ 52 * (2 ^ e / 2 ^ 52) := by
          rw [zpow_add₀ two_ne_zero, zpow_natCast]
          field_simp
      _ ≤ m * (2 ^ 52 + 1) * (2 ^ e / 2 ^ 52) := by gcongr
      _ = m * 2 ^ e * (1 + 1 / 2 ^ 52) := by field_simp
  have high : e + k ≤ 971 := by
    -- With 53 bits, a larger exponent would mean 2^1024 or more.
    by_contra large
    have least : (2 : ℚ) ^ 52 ≤ m' := by exact_mod_cast bits ▸ Nat.log2_self_le pos.ne'
    have : (2 : ℚ) ^ 1024 ≤ m' * 2 ^ (e + k) := by
      calc (2 : ℚ) ^ 1024 = 2 ^ 52 * 2 ^ ((972 : Nat) : Int) := by rw [zpow_natCast, ← pow_add]
        _ ≤ (m' : ℚ) * 2 ^ (e + k) :=
          mul_le_mul least (zpow_le_zpow_right₀ one_le_two (by omega)) (by positivity)
            (by positivity)
    exact absurd (this.trans value) (not_le.2 below)
  rw [rounded]
  exact ⟨s, m', e + k, pos, unpack_pack s pos bits (by omega) high, bits, by omega, value⟩

theorem log2_shiftLeft {n : Nat} (pos : n ≠ 0) (k : Nat) : (n <<< k).log2 = n.log2 + k := by
  have bounds := (Nat.log2_eq_iff pos).1 (rfl : n.log2 = n.log2)
  rw [Nat.shiftLeft_eq, Nat.log2_eq_iff (by positivity)]
  constructor
  · rw [Nat.pow_add]
    exact Nat.mul_le_mul_right _ bounds.1
  · rw [Nat.add_right_comm, Nat.pow_add]
    exact Nat.mul_lt_mul_of_pos_right bounds.2 (by positivity)

/-- A whole number of 64 bits as a float. -/
theorem bounded_toFloat {n : UInt64} (pos : n.toNat ≠ 0) :
    Bounded n.toFloat (n.toNat * (1 + 1 / 2 ^ 52)) (-52) := by
  let k := 52 - n.toNat.log2
  have rounded : UnpackedFloat.ofUInt64 Format.binary64 n =
      roundWithAccuracy Format.binary64 .positive (n.toNat <<< k) (0 - (k : Int)) .exact := by
    have sign : compare (n.toNat : Int) 0 = .gt := compare_gt_iff_gt.2 (by omega)
    have shift : (0 - Format.binary64.targetExponent (totalExponent n.toNat 0)).toNat = k := by
      rw [targetExponent_eq]
      omega
    unfold UnpackedFloat.ofUInt64 UnpackedFloat.ofNat UnpackedFloat.ofInt UnpackedFloat.normalize
      UnpackedFloat.round decreaseExponent
    rw [sign]
    simp only [Int.toNat_natCast, shift]
  have value : ((n.toNat <<< k : Nat) : ℚ) * 2 ^ (0 - (k : Int)) = n.toNat := by
    rw [Nat.shiftLeft_eq, zero_sub, zpow_neg, zpow_natCast]
    push_cast
    field_simp
  have wide : 52 ≤ (n.toNat <<< k).log2 := by
    rw [log2_shiftLeft pos]
    omega
  have below : (n.toNat : ℚ) < 2 ^ 64 := by exact_mod_cast n.toNat_lt
  have bounded := bounded_round .positive wide (e := 0 - (k : Int)) (by omega) (by
    rw [value]
    calc (n.toNat : ℚ) * (1 + 1 / 2 ^ 52) ≤ 2 ^ 64 * (1 + 1 / 2 ^ 52) := by gcongr
      _ < 2 ^ 65 := by norm_num
      _ ≤ 2 ^ 1024 := pow_le_pow_right₀ one_le_two (by decide))
  rw [value, ← rounded] at bounded
  obtain ⟨s, m, e, pos, unpacked, bits, low, value⟩ := bounded
  exact ⟨s, m, e, pos, unpacked, bits, by omega, value⟩

/-- The powers of ten that are floats themselves. -/
theorem unpack_powerOfTen : ∀ k < 23,
    (match (Json.powerOfTen k).toModel.unpack with
    | .finite _ m e _ =>
      decide (m.log2 = 52 ∧ -53 ≤ e ∧ m * 2 ^ (e + 53).toNat ≤ 10 ^ k * 2 ^ 53)
    | _ => false) = true := by
  decide +kernel

theorem powerOfTen_eq {k : Nat} (large : 23 ≤ k) (small : k ≤ 308) :
    Json.powerOfTen k = .ofModel (.pack (roundWithAccuracy Format.binary64 .positive
      ((1 <<< 53) * 10 ^ k) (-53) .exact)) := by
  have scaled : UnpackedFloat.ofScientific Format.binary64 1 k =
      roundWithAccuracy Format.binary64 .positive ((1 <<< 53) * 10 ^ k) (-53) .exact := by
    unfold UnpackedFloat.ofScientific
    rw [dif_neg one_ne_zero, if_neg (by norm_num; omega), if_neg (by norm_num; omega),
      if_pos (Int.natCast_nonneg k)]
    rfl
  unfold Json.powerOfTen Float.ofScientific
  rw [dif_neg (by omega), ← scaled]
  rfl

theorem bounded_powerOfTen {k : Nat} (small : k ≤ 308) :
    Bounded (Json.powerOfTen k) (10 ^ k * (1 + 1 / 2 ^ 52)) (-53) := by
  by_cases table : k < 23
  · have exact := unpack_powerOfTen k table
    split at exact
    · rename_i s m e pos unpacked
      obtain ⟨bits, low, value⟩ := of_decide_eq_true exact
      have value : (m : ℚ) * 2 ^ (e + 53).toNat ≤ 10 ^ k * 2 ^ 53 := by exact_mod_cast value
      refine ⟨s, m, e, pos, unpacked, bits, low, ?_⟩
      calc (m : ℚ) * 2 ^ e = m * 2 ^ (e + 53).toNat / 2 ^ 53 := by
            rw [← zpow_natCast, Int.toNat_of_nonneg (by omega), zpow_add₀ two_ne_zero]
            field_simp
        _ ≤ 10 ^ k * 2 ^ 53 / 2 ^ 53 := by gcongr
        _ = 10 ^ k * 1 := by ring
        _ ≤ 10 ^ k * (1 + 1 / 2 ^ 52) := by gcongr; norm_num
    · cases exact
  · have value : (((1 <<< 53) * 10 ^ k : Nat) : ℚ) * 2 ^ (-53 : Int) = 10 ^ k := by
      rw [Nat.shiftLeft_eq]
      push_cast
      ring
    have wide : 52 ≤ ((1 <<< 53) * 10 ^ k).log2 := by
      rw [Nat.le_log2 (by simp)]
      calc 2 ^ 52 ≤ (1 <<< 53) * 1 := by decide
        _ ≤ (1 <<< 53) * 10 ^ k := by gcongr; exact Nat.one_le_pow k 10 (by decide)
    have largest : 10 ^ 308 * (2 ^ 52 + 1) < 2 ^ 1024 * 2 ^ 52 := by decide +kernel
    have largest : (10 : ℚ) ^ 308 * (2 ^ 52 + 1) < 2 ^ 1024 * 2 ^ 52 := by exact_mod_cast largest
    have bounded := bounded_round .positive wide (e := -53) (by decide) (by
      rw [value]
      calc (10 : ℚ) ^ k * (1 + 1 / 2 ^ 52) ≤ 10 ^ 308 * (1 + 1 / 2 ^ 52) := by
            gcongr
            norm_num
        _ = 10 ^ 308 * (2 ^ 52 + 1) / 2 ^ 52 := by field_simp
        _ < 2 ^ 1024 := by rwa [div_lt_iff₀ (by positivity)])
    rw [value, ← powerOfTen_eq (by omega) small] at bounded
    exact bounded

/-! ## Products -/

theorem isInf_mul {f g : Float} {u v : ℚ} {a b : Int} (hf : Bounded f u a) (hg : Bounded g v b)
    (normal : -1074 ≤ a + b) (below : u * v * (1 + 1 / 2 ^ 52) < 2 ^ 1024) :
    (f * g).isInf = false := by
  obtain ⟨s, m, e, pos, unpacked, bits, low, value⟩ := hf
  obtain ⟨s', m', e', pos', unpacked', bits', low', value'⟩ := hg
  have product : f * g = .ofModel (.pack (roundWithAccuracy Format.binary64 (s * s') (m * m')
      (e + e') .exact)) := by
    change Float.ofModel (.pack (UnpackedFloat.mul Format.binary64 f.toModel.unpack
      g.toModel.unpack)) = _
    rw [unpacked, unpacked']
    rfl
  have wide : 52 ≤ (m * m').log2 := by
    rw [Nat.le_log2 (Nat.mul_pos pos pos').ne']
    calc 2 ^ 52 ≤ m := bits ▸ Nat.log2_self_le pos.ne'
      _ ≤ m * m' := Nat.le_mul_of_pos_right m pos'
  have exact : ((m * m' : Nat) : ℚ) * 2 ^ (e + e') ≤ u * v := by
    calc ((m * m' : Nat) : ℚ) * 2 ^ (e + e') = m * 2 ^ e * (m' * 2 ^ e') := by
          rw [zpow_add₀ two_ne_zero]
          push_cast
          ring
      _ ≤ u * v := mul_le_mul value value' (by positivity) (le_trans (by positivity) value)
  rw [product]
  exact (bounded_round _ wide (by omega)
    (lt_of_le_of_lt (mul_le_mul_of_nonneg_right exact (by positivity)) below)).not_isInf

/-- A decimal whose significand fits 64 bits can be scaled, if it keeps away from 2^1024. -/
theorem isInf_scaled {n k : Nat} (pos : n ≠ 0) (fits : n < UInt64.size) (small : k ≤ 308)
    (below : (n : ℚ) * 10 ^ k * (1 + 1 / 2 ^ 52) ^ 3 < 2 ^ 1024) :
    (n.toUInt64.toFloat * Json.powerOfTen k).isInf = false := by
  have same : n.toUInt64.toNat = n := UInt64.toNat_ofNat_of_lt' fits
  refine isInf_mul (bounded_toFloat (by rwa [same])) (bounded_powerOfTen small) (by decide) ?_
  rw [same]
  calc (n : ℚ) * (1 + 1 / 2 ^ 52) * (10 ^ k * (1 + 1 / 2 ^ 52)) * (1 + 1 / 2 ^ 52)
      = n * 10 ^ k * (1 + 1 / 2 ^ 52) ^ 3 := by ring
    _ < 2 ^ 1024 := below

end Telemetry.Decimal
