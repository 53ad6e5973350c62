import Telemetry.Proofs.Decimal.Rounding

set_option autoImplicit false

/-! # Floats between powers of two

A product of floats is rounded, but a power of two is a float itself, and rounding does not go past
a float. So powers of two bound a product as exactly as they bound the factors, up to the overflow
at 2^1024. -/

namespace Telemetry.Decimal

open Float.Model Float.Model.UnpackedFloat

/-! ## What a float is read as -/

/-- A finite float is below 2^1024, and its mantissa has 53 bits unless it is subnormal. -/
theorem unpack_bounds {x : Float} {s : Sign} {m : Nat} {e : Int} {pos : 0 < m}
    (unpacked : x.toModel.unpack = .finite s m e pos) :
    (m.log2 = 52 ∨ e = -1074) ∧ e ≤ 971 := by
  unfold Float.Model.unpack UnpackedFloat.unpack at unpacked
  dsimp only at unpacked
  by_cases last : @unpackExponent Format.binary64 x.toModel.toBits.toBitVec = -1#11
  · by_cases zero : @unpackMantissa Format.binary64 x.toModel.toBits.toBitVec = 0#52
    · rw [if_pos last, if_pos zero] at unpacked
      cases unpacked
    · rw [if_pos last, if_neg zero] at unpacked
      cases unpacked
  by_cases first : @unpackExponent Format.binary64 x.toModel.toBits.toBitVec = 0#11
  · by_cases zero : @unpackMantissa Format.binary64 x.toModel.toBits.toBitVec = 0#52
    · rw [if_neg last, if_pos first, dif_pos zero] at unpacked
      cases unpacked
    · rw [if_neg last, if_pos first, dif_neg zero, UnpackedFloat.finite.injEq] at unpacked
      obtain ⟨-, -, rfl⟩ := unpacked
      rw [first]
      exact ⟨.inr rfl, by decide⟩
  · rw [if_neg last, if_neg first, UnpackedFloat.finite.injEq] at unpacked
    obtain ⟨-, rfl, rfl⟩ := unpacked
    constructor
    · have fraction := (@unpackMantissa Format.binary64 x.toModel.toBits.toBitVec).isLt
      change _ < 2 ^ 52 at fraction
      rw [toNat_leadingOne, Nat.log2_eq_iff (by omega)]
      omega
    · have field := (@unpackExponent Format.binary64 x.toModel.toBits.toBitVec).isLt
      change _ < 2 ^ 11 at field
      have notLast : (@unpackExponent Format.binary64 x.toModel.toBits.toBitVec).toNat ≠ 2047 :=
        fun same => last (BitVec.eq_of_toNat_eq same)
      change ((_ : Nat) : Int) - ((1023 : Nat) + (52 : Nat)) ≤ 971
      omega

theorem unpack_pack_infinity (s : Sign) :
    (Float.Model.pack (.infinity s)).unpack = .infinity s := by
  cases s <;> rfl

/-- What is too large to be stored is stored as an infinity. -/
theorem unpack_pack_of_large (s : Sign) {m : Nat} {e : Int} (pos : 0 < m) (large : 971 < e) :
    (Float.Model.pack (.finite s m e pos)).unpack = .infinity s := by
  have packed : UnpackedFloat.pack Format.binary64 (.finite s m e pos) =
      packedInfinity Format.binary64 s := by
    change ite (2 ^ 11 ≤ (e + (1023 : Nat) + (52 : Nat)).toNat + 1) _ _ = _
    rw [if_pos (by omega)]
  exact Eq.trans (congrArg (UnpackedFloat.unpack Format.binary64) packed) (unpack_pack_infinity s)

theorem mul_eq (f g : Float) :
    f * g = .ofModel (.pack (UnpackedFloat.mul Format.binary64 f.toModel.unpack
      g.toModel.unpack)) :=
  rfl

/-- The product of two mantissas of 53 bits has at least 105. -/
theorem le_log2_mul {m m' : Nat} (pos : 0 < m) (pos' : 0 < m') (bits : m.log2 = 52)
    (bits' : m'.log2 = 52) : 104 ≤ (m * m').log2 := by
  rw [Nat.le_log2 (Nat.mul_pos pos pos').ne']
  calc 2 ^ 104 = 2 ^ 52 * 2 ^ 52 := by rw [← pow_add]
    _ ≤ m * m' := Nat.mul_le_mul (bits ▸ Nat.log2_self_le pos.ne')
      (bits' ▸ Nat.log2_self_le pos'.ne')

/-! ## Floats from a power of two on -/

/-- A float that is not below `2^k`, the infinity included. -/
def Reaches (x : Float) (k : Nat) : Prop :=
  x.toModel.unpack = .infinity .positive ∨
    ∃ m e pos, x.toModel.unpack = .finite .positive m e pos ∧ m.log2 = 52 ∧ (k : Int) ≤ e + 52

theorem Reaches.unpack_of_isInf {x : Float} {k : Nat} (h : Reaches x k)
    (infinite : x.isInf = true) : x.toModel.unpack = .infinity .positive := by
  rcases h with unpacked | ⟨m, e, pos, unpacked, -⟩
  · exact unpacked
  · unfold Float.isInf Float.Model.isInf at infinite
    rw [unpacked] at infinite
    cases infinite

theorem Reaches.unpack_of_not_isInf {x : Float} {k : Nat} (h : Reaches x k)
    (finite : x.isInf = false) : ∃ m e pos, x.toModel.unpack = .finite .positive m e pos := by
  rcases h with unpacked | ⟨m, e, pos, unpacked, -⟩
  · unfold Float.isInf Float.Model.isInf at finite
    rw [unpacked] at finite
    cases finite
  · exact ⟨m, e, pos, unpacked⟩

theorem Reaches.isInf {x : Float} {k : Nat} (h : Reaches x k) (large : 1024 ≤ k) :
    x.isInf = true := by
  rcases h with unpacked | ⟨m, e, pos, unpacked, -, reached⟩
  · unfold Float.isInf Float.Model.isInf
    rw [unpacked]
    rfl
  · have := (unpack_bounds unpacked).2
    omega

/-- Rounding does not go below a power of two. -/
theorem reaches_round {m : Nat} {e : Int} {k : Nat} (wide : 52 ≤ m.log2) (normal : -1074 ≤ e)
    (reached : (k : Int) ≤ m.log2 + e) :
    Reaches (.ofModel (.pack (roundWithAccuracy Format.binary64 .positive m e .exact))) k := by
  obtain ⟨m', j, pos, rounded, bits, lead, -⟩ := roundWithAccuracy_wide .positive wide normal
  rw [rounded]
  by_cases high : e + j ≤ 971
  · exact .inr ⟨m', e + j, pos, unpack_pack .positive pos bits (by omega) high, bits, by omega⟩
  · exact .inl (unpack_pack_of_large .positive pos (by omega))

theorem Reaches.mul {f g : Float} {i j : Nat} (hf : Reaches f i) (hg : Reaches g j) :
    Reaches (f * g) (i + j) := by
  have overflow (infinite : UnpackedFloat.mul Format.binary64 f.toModel.unpack g.toModel.unpack =
      .infinity .positive) : Reaches (f * g) (i + j) := by
    rw [mul_eq, infinite]
    exact .inl (unpack_pack_infinity .positive)
  rcases hf with infinite | ⟨m, e, pos, unpacked, bits, reached⟩
  · refine overflow ?_
    rcases hg with infinite' | ⟨m', e', pos', unpacked', -⟩
    · rw [infinite, infinite']
      rfl
    · rw [infinite, unpacked']
      rfl
  · rcases hg with infinite' | ⟨m', e', pos', unpacked', bits', reached'⟩
    · refine overflow ?_
      rw [unpacked, infinite']
      rfl
    · rw [mul_eq, unpacked, unpacked']
      have wide := le_log2_mul pos pos' bits bits'
      exact reaches_round (by omega) (by omega) (by push_cast; omega)

/-! ## Floats up to a power of two -/

/-- A float from 1 to `2^k`. -/
def Within (x : Float) (k : Nat) : Prop :=
  ∃ m j pos, x.toModel.unpack = .finite .positive m ((j : Nat) - 52 : Int) pos ∧ m.log2 = 52 ∧
    m * 2 ^ j ≤ 2 ^ (52 + k)

theorem Within.isInf {x : Float} {k : Nat} (h : Within x k) : x.isInf = false := by
  obtain ⟨m, j, pos, unpacked, -⟩ := h
  unfold Float.isInf Float.Model.isInf
  rw [unpacked]
  rfl

/-- A number of at least `2^a` that is shifted and stays within `2^k` is shifted by the difference
at most. -/
theorem add_le_of_mul_two_pow_le {m a n k : Nat} (least : 2 ^ a ≤ m)
    (most : m * 2 ^ n ≤ 2 ^ k) : a + n ≤ k := by
  rw [← Nat.pow_le_pow_iff_right (a := 2) (by decide), pow_add]
  exact (Nat.mul_le_mul_right _ least).trans most

/-- Rounding does not go above a power of two. -/
theorem within_round {m j k : Nat} (wide : 104 ≤ m.log2) (bound : m * 2 ^ j ≤ 2 ^ (104 + k))
    (small : k < 1024) :
    Within (.ofModel (.pack (roundWithAccuracy Format.binary64 .positive m (j - 104) .exact)))
      k := by
  obtain ⟨m', i, pos, rounded, bits, lead, up⟩ :=
    roundWithAccuracy_wide .positive (m := m) (e := j - 104) (by omega) (by omega)
  let l := m.log2 - 52
  have fits : m.log2 + j ≤ 104 + k :=
    add_le_of_mul_two_pow_le (Nat.log2_self_le (by rintro rfl; simp at wide)) bound
  -- In units of the last place the power of two is a whole number, so it is not passed.
  have power : 2 ^ (104 + k - l - j) * 2 ^ l * 2 ^ j = 2 ^ (104 + k) := by
    rw [← pow_add, ← pow_add]
    congr 1
    omega
  have le : m' * 2 ^ i ≤ 2 ^ (104 + k - l - j) * 2 ^ l := by
    refine up _ (Nat.le_of_mul_le_mul_right ?_ (Nat.two_pow_pos j))
    rw [power]
    exact bound
  obtain ⟨n, split⟩ : ∃ n, i + j = n + 52 := ⟨i + j - 52, by omega⟩
  have value : m' * 2 ^ n ≤ 2 ^ (52 + k) := by
    refine Nat.le_of_mul_le_mul_right ?_ (Nat.two_pow_pos 52)
    calc m' * 2 ^ n * 2 ^ 52 = m' * 2 ^ i * 2 ^ j := by
          rw [mul_assoc, mul_assoc, ← pow_add, ← pow_add, split]
      _ ≤ 2 ^ (104 + k - l - j) * 2 ^ l * 2 ^ j := Nat.mul_le_mul_right _ le
      _ = 2 ^ (52 + k) * 2 ^ 52 := by rw [power, ← pow_add]; congr 1; omega
  have high : 52 + n ≤ 52 + k :=
    add_le_of_mul_two_pow_le (bits ▸ Nat.log2_self_le pos.ne') value
  have place : (j : Int) - 104 + i = n - 52 := by omega
  rw [rounded]
  refine ⟨m', n, pos, ?_, bits, value⟩
  rw [← place]
  exact unpack_pack .positive pos bits (by omega) (by omega)

theorem Within.mul {f g : Float} {i j : Nat} (hf : Within f i) (hg : Within g j)
    (small : i + j < 1024) : Within (f * g) (i + j) := by
  obtain ⟨m, n, pos, unpacked, bits, bound⟩ := hf
  obtain ⟨m', n', pos', unpacked', bits', bound'⟩ := hg
  have product : f * g = .ofModel (.pack (roundWithAccuracy Format.binary64 .positive (m * m')
      ((n + n' : Nat) - 104) .exact)) := by
    have place : (n : Int) - 52 + (n' - 52) = (n + n' : Nat) - 104 := by omega
    rw [mul_eq, unpacked, unpacked', ← place]
    rfl
  rw [product]
  refine within_round (le_log2_mul pos pos' bits bits') ?_ small
  calc m * m' * 2 ^ (n + n') = m * 2 ^ n * (m' * 2 ^ n') := by ring
    _ ≤ 2 ^ (52 + i) * 2 ^ (52 + j) := Nat.mul_le_mul bound bound'
    _ = 2 ^ (104 + (i + j)) := by ring

/-! ## Comparing with a power of two -/

theorem le_iff (x y : Float) :
    x ≤ y ↔ (x.toModel.unpack.compare y.toModel.unpack).any (·.isLE) = true := by
  change decide (x.toModel ≤ y.toModel) = true ↔ _
  rw [decide_eq_true_iff]
  rfl

theorem lt_iff (x y : Float) : x < y ↔ x.toModel.unpack.compare y.toModel.unpack = some .lt := by
  change decide (x.toModel < y.toModel) = true ↔ _
  rw [decide_eq_true_iff]
  exact beq_iff_eq

theorem le_of_lt {x y : Float} (h : x < y) : x ≤ y := by
  rw [le_iff, (lt_iff x y).1 h]
  rfl

/-- Positive finite floats compare by their exponents first. -/
theorem le_iff_of_finite {x y : Float} {m m' : Nat} {e e' : Int} {pos : 0 < m} {pos' : 0 < m'}
    (hx : x.toModel.unpack = .finite .positive m e pos)
    (hy : y.toModel.unpack = .finite .positive m' e' pos') :
    x ≤ y ↔ e < e' ∨ e = e' ∧ m ≤ m' := by
  rw [le_iff, hx, hy]
  change ((compare e e').then (compare m m')).isLE = true ↔ _
  rw [Ordering.isLE_then_iff_or, compare_lt_iff_lt, compare_eq_iff_eq, Std.isLE_compare]

/-- The float `2^k`. -/
def IsPower (p : Float) (k : Nat) : Prop :=
  p.toModel.unpack = .finite .positive (2 ^ 52) (k - 52) (Nat.two_pow_pos 52)

theorem isPower_one : IsPower 1.0 0 :=
  rfl

theorem isPower_two : IsPower 2.0 1 :=
  rfl

section

variable {p x : Float} {k : Nat}

theorem IsPower.reaches (h : IsPower p k) : Reaches p k :=
  .inr ⟨2 ^ 52, k - 52, Nat.two_pow_pos 52, h, Nat.log2_two_pow, by omega⟩

theorem IsPower.within (h : IsPower p k) : Within p k :=
  ⟨2 ^ 52, k, Nat.two_pow_pos 52, h, Nat.log2_two_pow, (pow_add 2 52 k).ge⟩

theorem Reaches.of_le (h : IsPower p k) (le : p ≤ x) : Reaches x k := by
  -- Only the infinity and the positive floats can be above.
  have ordered := (le_iff p x).1 le
  rw [h] at ordered
  cases unpacked : x.toModel.unpack with
  | notANumber | zero _ =>
      rw [unpacked] at ordered
      cases ordered
  | infinity s =>
      rw [unpacked] at ordered
      cases s with
      | positive => exact .inl unpacked
      | negative => cases ordered
  | finite s m e pos =>
      rw [unpacked] at ordered
      cases s with
      | negative => cases ordered
      | positive =>
          have place := (le_iff_of_finite h unpacked).1 le
          rcases (unpack_bounds unpacked).1 with bits | subnormal
          · exact .inr ⟨m, e, pos, unpacked, bits, by omega⟩
          · omega

theorem Reaches.one_le (h : Reaches x k) : (1.0 : Float) ≤ x := by
  rcases h with unpacked | ⟨m, e, pos, unpacked, bits, reached⟩
  · rw [le_iff, isPower_one, unpacked]
    rfl
  · have least : 2 ^ 52 ≤ m := bits ▸ Nat.log2_self_le pos.ne'
    rw [le_iff_of_finite isPower_one unpacked]
    omega

theorem Reaches.one_lt (h : Reaches x k) (more : 0 < k) : (1.0 : Float) < x := by
  rcases h with unpacked | ⟨m, e, pos, unpacked, bits, reached⟩
  · rw [lt_iff, isPower_one, unpacked]
    rfl
  · rw [lt_iff, isPower_one, unpacked]
    have below : compare (((0 : Nat) : Int) - 52) e = .lt := compare_lt_iff_lt.2 (by omega)
    change some ((compare (((0 : Nat) : Int) - 52) e).then (compare (2 ^ 52) m)) = some .lt
    rw [below]
    rfl

theorem Reaches.within_of_le (h : Reaches x 0) (power : IsPower p k) (le : x ≤ p) :
    Within x k := by
  rcases h with unpacked | ⟨m, e, pos, unpacked, bits, reached⟩
  · rw [le_iff, unpacked, power] at le
    cases le
  · obtain ⟨j, rfl⟩ : ∃ j : Nat, e = j - 52 := ⟨(e + 52).toNat, by omega⟩
    refine ⟨m, j, pos, unpacked, bits, ?_⟩
    rcases (le_iff_of_finite unpacked power).1 le with below | ⟨same, most⟩
    · have small : m < 2 ^ 53 := ((Nat.log2_eq_iff pos.ne').1 bits).2
      calc m * 2 ^ j ≤ 2 ^ 53 * 2 ^ j := Nat.mul_le_mul_right _ small.le
        _ = 2 ^ (53 + j) := (pow_add 2 53 j).symm
        _ ≤ 2 ^ (52 + k) := Nat.pow_le_pow_right (by decide) (by omega)
    · obtain rfl : j = k := by omega
      calc m * 2 ^ j ≤ 2 ^ 52 * 2 ^ j := Nat.mul_le_mul_right _ most
        _ = 2 ^ (52 + j) := (pow_add 2 52 j).symm

end

end Telemetry.Decimal
