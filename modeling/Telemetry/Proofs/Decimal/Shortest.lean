import Mathlib.Algebra.Order.Field.Power
import Mathlib.Algebra.Order.Ring.Rat
import Mathlib.Tactic.FieldSimp
import Mathlib.Tactic.Linarith
import Mathlib.Tactic.NormNum
import Mathlib.Tactic.Positivity
import Mathlib.Tactic.Ring
import Telemetry.Decimal.Shortest

set_option autoImplicit false

/-! # Where the shortest decimal lies

Only decimals that read back are tried, and these do not lie above the midpoint between the float
and the next one; the value written out in full is the float itself. So whatever the search finds,
it is a positive decimal at most half a step above the float, and its last place is none of those
that no float reaches. -/

namespace Telemetry.Decimal

/-- The number that a decimal stands for. -/
def Scaled.value (d : Scaled) : ℚ :=
  d.digits * 10 ^ d.exp

/-- The number half-way between a float and the next larger one. -/
def Binary.midpoint (x : Binary) : ℚ :=
  (4 * x.m + 2) * 2 ^ (x.q - 2)

/-- What is known of a decimal for a float: it is positive, at most half a step too large, and
ends above the last place that a float can have. -/
structure Binary.Near (x : Binary) (d : Scaled) : Prop where
  pos : d.digits ≠ 0
  value_le : d.value ≤ x.midpoint
  exp_ge : -1074 ≤ d.exp

/-! ## Comparing -/

theorem zpow_eq_div (b : ℚ) (e : Int) : b ^ e = b ^ e.toNat / b ^ (-e).toNat := by
  rcases Int.le_total 0 e with nonneg | nonpos
  · rw [Int.toNat_of_nonpos (Int.neg_nonpos_of_nonneg nonneg), pow_zero, div_one, ← zpow_natCast,
      Int.toNat_of_nonneg nonneg]
  · rw [Int.toNat_of_nonpos nonpos, pow_zero, ← zpow_natCast,
      Int.toNat_of_nonneg (Int.neg_nonneg_of_nonpos nonpos), zpow_neg, one_div, inv_inv]

theorem le_of_compareScaled {a n : Nat} {i j : Int} (h : compareScaled a i n j ≠ .gt) :
    (a : ℚ) * 10 ^ i ≤ n * 2 ^ j := by
  have le : a * 10 ^ i.toNat * 2 ^ (-j).toNat ≤ n * 2 ^ j.toNat * 10 ^ (-i).toNat :=
    not_lt.1 fun lt => h (compare_gt_iff_gt.2 lt)
  have le : (a : ℚ) * 10 ^ i.toNat * 2 ^ (-j).toNat ≤ n * 2 ^ j.toNat * 10 ^ (-i).toNat := by
    exact_mod_cast le
  rw [zpow_eq_div 10, zpow_eq_div 2, ← mul_div_assoc, ← mul_div_assoc,
    div_le_div_iff₀ (by positivity) (by positivity)]
  exact le

theorem pos_of_compareScaled {a n : Nat} {i j : Int} (pos : 0 < n)
    (h : compareScaled a i n j ≠ .lt) : a ≠ 0 := by
  rintro rfl
  refine h (compare_lt_iff_lt.2 ?_)
  rw [Nat.zero_mul, Nat.zero_mul]
  exact Nat.mul_pos (Nat.mul_pos pos (Nat.pow_pos (by decide))) (Nat.pow_pos (by decide))

theorem Binary.near_of_readsBack {x : Binary} {d : Scaled} (pos : x.m ≠ 0) (low : -1074 ≤ d.exp)
    (h : x.readsBack d = true) : x.Near d := by
  simp only [readsBack, Bool.and_eq_true, Bool.or_eq_true, beq_iff_eq] at h
  -- The lower end of the interval makes the decimal positive, the upper one is the midpoint.
  obtain ⟨below, above⟩ := h
  constructor
  · refine pos_of_compareScaled ?_ (fun h => ?_)
      (n := if x.narrowBelow then 4 * x.m - 1 else 4 * x.m - 2) (i := d.exp) (j := x.q - 2)
    · split <;> omega
    · rcases below with gt | ⟨-, eq⟩
      · rw [h] at gt; cases gt
      · rw [h] at eq; cases eq
  · have le := le_of_compareScaled (a := d.digits) (i := d.exp) (n := 4 * x.m + 2) (j := x.q - 2)
      (fun h => by
        rcases above with lt | ⟨-, eq⟩
        · rw [h] at lt; cases lt
        · rw [h] at eq; cases eq)
    rw [Scaled.value, midpoint]
    exact_mod_cast le
  · exact low

/-! ## Searching -/

theorem readsBack_of_nearestOnGrid {x : Binary} {tie : Tie} {e : Int} {d : Scaled}
    (h : x.nearestOnGrid tie e = some d) : x.readsBack d = true ∧ d.exp = e := by
  simp only [Binary.nearestOnGrid] at h
  split at h
  · rename_i both
    rw [Bool.and_eq_true] at both
    split at h
    · cases h; exact ⟨both.1, rfl⟩
    · cases h; exact ⟨both.2, rfl⟩
    · split at h
      · cases h; exact ⟨both.1, rfl⟩
      · cases h; exact ⟨both.2, rfl⟩
  · split at h
    · rename_i lower
      cases h; exact ⟨lower, rfl⟩
    · split at h
      · rename_i upper
        cases h; exact ⟨upper, rfl⟩
      · cases h

theorem le_raiseScale (x : Binary) (e : Int) (steps : Nat) : e ≤ raiseScale x e steps := by
  induction steps generalizing e with
  | zero => exact Int.le_refl e
  | succ steps ih =>
      rw [raiseScale]
      split
      · exact Int.le_refl e
      · exact Int.le_trans (Int.le_add_one (Int.le_refl e)) (ih (e + 1))

theorem Binary.scale_ge {x : Binary} (low : -1074 ≤ x.q) : -325 ≤ x.scale := by
  refine Int.le_trans ?_ (le_raiseScale x _ 5)
  have := Int.natCast_nonneg x.m.log2
  omega

theorem Binary.near_exact {x : Binary} (pos : x.m ≠ 0) (low : -1074 ≤ x.q) : x.Near x.exact where
  pos := by
    rw [Binary.exact]
    exact Nat.mul_ne_zero (Nat.mul_ne_zero pos (Nat.pow_pos (by decide)).ne')
      (Nat.pow_pos (by decide)).ne'
  value_le := by
    have digits : (x.exact.digits : ℚ) = x.m * 2 ^ x.q.toNat * 5 ^ (-x.q).toNat := by
      simp [Binary.exact, wholePower]
    have ten : (10 : ℚ) ^ (-x.q).toNat = 2 ^ (-x.q).toNat * 5 ^ (-x.q).toNat := by
      rw [← mul_pow]
      norm_num
    calc x.exact.value = x.m * 2 ^ x.q.toNat * 5 ^ (-x.q).toNat / 10 ^ (-x.q).toNat := by
          rw [Scaled.value, digits, show x.exact.exp = -((-x.q).toNat : Int) from rfl, zpow_neg,
            zpow_natCast, div_eq_mul_inv]
      _ = x.m * 2 ^ x.q := by
          rw [ten, zpow_eq_div 2]
          field_simp
      _ ≤ (4 * x.m + 2) * (2 ^ x.q / 2 ^ 2) := by
          have : (0 : ℚ) < 2 ^ x.q := by positivity
          linarith
      _ = x.midpoint := by
          rw [midpoint, zpow_sub₀ two_ne_zero]
          rfl
  exp_ge := by
    change -1074 ≤ -((-x.q).toNat : Int)
    omega

/-- Moving zeros into the exponent changes neither the value nor how near it is. -/
theorem Binary.Near.stripZeros {x : Binary} {d : Scaled} (h : x.Near d) (steps : Nat) :
    x.Near (d.stripZeros steps) := by
  induction steps generalizing d with
  | zero => exact h
  | succ steps ih =>
      rw [Scaled.stripZeros]
      split
      · rename_i zero
        have whole := Nat.div_add_mod d.digits 10
        rw [zero.1, Nat.add_zero] at whole
        have digits : (10 : ℚ) * (d.digits / 10 : Nat) = d.digits := by exact_mod_cast whole
        refine ih ⟨?_, ?_, ?_⟩
        · change d.digits / 10 ≠ 0
          omega
        · refine le_trans (le_of_eq ?_) h.value_le
          change ((d.digits / 10 : Nat) : ℚ) * 10 ^ (d.exp + 1) = d.digits * 10 ^ d.exp
          rw [← digits, zpow_add_one₀ (by norm_num)]
          ring
        · exact Int.le_add_one h.exp_ge
      · exact h

theorem Binary.near_shortest {x : Binary} (tie : Tie) (pos : x.m ≠ 0) (low : -1074 ≤ x.q) :
    x.Near (x.shortest tie) := by
  rw [shortest]
  refine Near.stripZeros ?_ 800
  cases found : (List.range 17).findSome? fun (n : Nat) =>
      x.nearestOnGrid tie (x.scale - ((n : Int) + 1)) with
  | none => exact near_exact pos low
  | some d =>
      obtain ⟨n, hn, nearest⟩ := List.exists_of_findSome?_eq_some found
      obtain ⟨reads, exp⟩ := readsBack_of_nearestOnGrid nearest
      have scale := scale_ge low
      have few := List.mem_range.1 hn
      exact near_of_readsBack pos (by rw [Option.getD_some]; omega) reads

end Telemetry.Decimal
