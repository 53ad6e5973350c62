import Telemetry.Proofs.Decimal.Binades
import Telemetry.Proofs.Export.Retrying

set_option autoImplicit false

/-! # Pauses at the edge of the floats

The growth of a pause is a power of a float that is at least one, so it is never less than one and
never NaN, but it may overflow. The product with the first pause is then no span of time, whatever
the first pause is: an infinity, or NaN if there is no first pause. In both cases the limit takes
its place. -/

namespace Telemetry

open Decimal Float.Model Float.Model.UnpackedFloat

/-! ## Powers -/

section

variable {P : Float → Nat → Prop} (limit : Nat)

/-- A product that is taken or left out by the last bit of an exponent. -/
theorem factor_of_mul
    (mul : ∀ {f g i j}, P f i → P g j → i + j < limit → P (f * g) (i + j))
    {r a : Float} {i j : Nat} (n : Nat) (hr : P r i) (ha : P a j) (small : i + j * n < limit) :
    P (if n % 2 = 1 then r * a else r) (i + j * (n % 2)) := by
  split
  · rename_i odd
    have : j ≤ j * n := Nat.le_mul_of_pos_right j (by omega)
    rw [odd, Nat.mul_one]
    exact mul hr ha (by omega)
  · rename_i even
    rw [Nat.mod_two_ne_one.1 even, Nat.mul_zero]
    exact hr

/-- A law of products that adds numbers is a law of powers that multiplies them. -/
theorem powerTimes_of_mul
    (mul : ∀ {f g i j}, P f i → P g j → i + j < limit → P (f * g) (i + j))
    {r a : Float} {i j : Nat} (n : Nat) (hr : P r i) (ha : P a j) (small : i + j * n < limit) :
    P (powerTimes r a n) (i + j * n) := by
  fun_induction powerTimes r a n generalizing i j with
  | case1 r a n factor =>
      rename_i last
      have taken : P factor (i + j * (n % 2)) := factor_of_mul limit mul n hr ha small
      rwa [show n % 2 = n by omega] at taken
  | case2 r a n factor more =>
      rename_i ih
      have taken : P factor (i + j * (n % 2)) := factor_of_mul limit mul n hr ha small
      have split : i + j * n = i + j * (n % 2) + (j + j) * (n / 2) := by
        calc i + j * n = i + j * (n % 2 + 2 * (n / 2)) := by rw [Nat.mod_add_div]
          _ = i + j * (n % 2) + (j + j) * (n / 2) := by ring
      have square : j + j ≤ (j + j) * (n / 2) := Nat.le_mul_of_pos_right _ (by omega)
      rw [split] at small ⊢
      exact ih taken (mul ha ha (by omega)) small

end

theorem reaches_power {a : Float} {k : Nat} (ha : Reaches a k) (n : Nat) :
    Reaches (power a n) (k * n) := by
  have reached := powerTimes_of_mul (k * n + 1) (fun hf hg _ => hf.mul hg) n
    isPower_one.reaches ha (by omega)
  rwa [Nat.zero_add] at reached

theorem within_power {a : Float} {k : Nat} (ha : Within a k) {n : Nat} (small : k * n < 1024) :
    Within (power a n) (k * n) := by
  have bounded := powerTimes_of_mul 1024 (fun hf hg => hf.mul hg) n
    isPower_one.within ha (by omega)
  rwa [Nat.zero_add] at bounded

theorem power_one (n : Nat) : power 1.0 n = 1.0 :=
  powerTimes_of_mul (P := fun f _ => f = 1.0) (n + 1) (i := 0) (j := 1)
    (fun hf hg _ => by rw [hf, hg]; rfl) n rfl rfl (by omega)

theorem power_zero (a : Float) : power a 0 = 1.0 := by
  rw [power, powerTimes]
  rfl

/-! ## Spans of time from floats -/

/-- A float that is no number or infinite is no span of time. -/
theorem ofFloat?_eq_none {x : Float}
    (beyond : x.toModel.unpack = .notANumber ∨ ∃ s, x.toModel.unpack = .infinity s) :
    Duration.ofFloat? x = none := by
  have zero : (0.0 : Float).toModel.unpack = .zero .positive := rfl
  have bound : IsPower 18446744073709551616.0 64 := rfl
  unfold Duration.ofFloat?
  rw [if_neg]
  rintro ⟨low, high⟩
  rw [le_iff, zero] at low
  rw [lt_iff, bound] at high
  rcases beyond with unpacked | ⟨s, unpacked⟩
  · rw [unpacked] at low
    cases low
  · rw [unpacked] at low high
    cases s with
    | positive => cases high
    | negative => cases low

/-- No float times an infinity is a span of time: not even zero, since that is NaN. -/
theorem ofFloat?_mul_infinity (x : Float) {g : Float}
    (infinite : g.toModel.unpack = .infinity .positive) : Duration.ofFloat? (x * g) = none := by
  apply ofFloat?_eq_none
  rw [mul_eq, infinite]
  cases unpacked : x.toModel.unpack with
  | notANumber => exact .inl rfl
  | zero s => cases s <;> exact .inl rfl
  | infinity s | finite s m e pos => exact .inr ⟨_, unpack_pack_infinity _⟩

/-- No pause times a finite float is no pause. -/
theorem ofFloat?_zero_mul {g : Float} {m : Nat} {e : Int} {pos : 0 < m}
    (finite : g.toModel.unpack = .finite .positive m e pos) :
    Duration.ofFloat? (Duration.zero.toFloat * g) = some .zero := by
  have nothing : Duration.zero.toFloat.toModel.unpack = .zero .positive := rfl
  have product : UnpackedFloat.mul Format.binary64 (.zero .positive) (.finite .positive m e pos) =
      .zero .positive := rfl
  rw [mul_eq, nothing, finite, product]
  decide +kernel

/-! ## Pauses -/

namespace RetryConfig

variable (c : RetryConfig) (retry : Nat)

/-- The growth is past all finite floats. -/
def Overflows : Prop :=
  (c.growth retry).isInf = true

variable {c retry}

theorem growth_of_lt (more : 1.0 < c.multiplier) :
    c.growth retry = power c.multiplier (min (retry - 1) maxExponent) := by
  rw [growth, if_pos more]

theorem growth_of_not_lt (less : ¬1.0 < c.multiplier) : c.growth retry = 1.0 := by
  rw [growth, if_neg less, power_one]

theorem growth_of_le_one (first : retry ≤ 1) : c.growth retry = 1.0 := by
  rw [growth, Nat.sub_eq_zero_of_le first, Nat.zero_min, power_zero]

/-- A multiplier of at least `2^k`, the infinity included, gives a growth of at least the power. -/
theorem reaches_growth {k : Nat} (pos : 0 < k) (reached : Reaches c.multiplier k) :
    Reaches (c.growth retry) (k * min (retry - 1) maxExponent) := by
  rw [growth_of_lt (reached.one_lt pos)]
  exact reaches_power reached _

theorem growth_reaches_one (c : RetryConfig) (retry : Nat) : Reaches (c.growth retry) 0 := by
  by_cases more : 1.0 < c.multiplier
  · have reached : Reaches c.multiplier 0 := .of_le isPower_one (le_of_lt more)
    have power := reaches_power reached (min (retry - 1) maxExponent)
    rwa [Nat.zero_mul, ← growth_of_lt more] at power
  · rw [growth_of_not_lt more]
    exact isPower_one.reaches

theorem overflows_of_reaches {k : Nat} (reached : Reaches c.multiplier k)
    (large : 1024 ≤ k * min (retry - 1) maxExponent) : c.Overflows retry :=
  (reaches_growth (Nat.pos_of_ne_zero fun zero => by simp [zero] at large) reached).isInf large

theorem not_overflows_of_le {p : Float} {k : Nat} (power : IsPower p k) (le : c.multiplier ≤ p)
    (small : k * (retry - 1) < 1024) : ¬c.Overflows retry := by
  suffices bounded : ∃ n, Within (c.growth retry) n by
    obtain ⟨n, bounded⟩ := bounded
    rw [Overflows, bounded.isInf]
    exact Bool.false_ne_true
  by_cases more : 1.0 < c.multiplier
  · have reached : Reaches c.multiplier 0 := .of_le isPower_one (le_of_lt more)
    rw [growth_of_lt more]
    refine ⟨_, within_power (reached.within_of_le power le) (lt_of_le_of_lt ?_ small)⟩
    exact Nat.mul_le_mul_left k (Nat.min_le_left ..)
  · rw [growth_of_not_lt more]
    exact ⟨0, isPower_one.within⟩

theorem backoff_of_overflows (overflows : c.Overflows retry) : c.backoff retry = c.maxDelay := by
  have infinite := (growth_reaches_one c retry).unpack_of_isInf overflows
  rw [backoff, ofFloat?_mul_infinity _ infinite]

theorem backoff_of_not_overflows (noDelay : c.baseDelay = .zero) (finite : ¬c.Overflows retry) :
    c.backoff retry = .zero := by
  obtain ⟨m, e, pos, unpacked⟩ := (growth_reaches_one c retry).unpack_of_not_isInf
    (Bool.eq_false_iff.2 finite)
  rw [backoff, noDelay, ofFloat?_zero_mul unpacked]
  exact if_pos (Nat.zero_le _)

/-- **A pause stays within the limit, and jumps to it where the growth overflows.** Let the settings
be any, with a multiplier that is any float, and count the retries from one. The pause is at most
the limit. The growth is a float of at least one, or the infinity. Where it is finite there is no
pause if the first pause is none; but where it overflows the pause is the limit, also if the first
pause is none.

The growth is one at the first retry, and at all retries if the multiplier is not more than one or
NaN. With a multiplier of at most two it does not overflow before retry number 1025, and with one of
at least two it overflows from there on. If the multiplier is the infinity, it overflows from the
second retry on. -/
theorem pauses_jump_at_overflow (c : RetryConfig) (retry : Nat) :
    c.backoff retry ≤ c.maxDelay ∧
    (1.0 : Float) ≤ c.growth retry ∧
    (c.baseDelay = .zero → ¬c.Overflows retry → c.backoff retry = .zero) ∧
    (c.Overflows retry → c.backoff retry = c.maxDelay) ∧
    (retry ≤ 1 ∨ ¬(1.0 : Float) < c.multiplier → c.growth retry = 1.0) ∧
    (c.multiplier ≤ (2.0 : Float) → retry ≤ 1024 → ¬c.Overflows retry) ∧
    ((2.0 : Float) ≤ c.multiplier → 1025 ≤ retry → c.Overflows retry) ∧
    ((1.0 : Float) < c.multiplier → c.multiplier.isInf = true → 2 ≤ retry →
      c.Overflows retry) := by
  have exponent : maxExponent = 2147483647 := rfl
  refine ⟨c.backoff_le retry, (growth_reaches_one c retry).one_le,
    backoff_of_not_overflows, backoff_of_overflows, ?_, ?_, ?_, ?_⟩
  · rintro (first | less)
    · exact growth_of_le_one first
    · exact growth_of_not_lt less
  · intro le early
    exact not_overflows_of_le isPower_two le (by omega)
  · intro ge late
    exact overflows_of_reaches (.of_le isPower_two ge) (by omega)
  · intro more infinite late
    have unpacked := (Reaches.of_le isPower_one (le_of_lt more)).unpack_of_isInf infinite
    exact overflows_of_reaches (k := 1024) (.inl unpacked) (by omega)

/-- No first pause, and a limit of five seconds: with pauses that double there is none up to retry
number 1024, and then there are five seconds. With a multiplier of 1e200 the third retry
overflows. -/
theorem pauses_jump_at_overflow_of_no_pause :
    ∃ c : RetryConfig, c = { RetryConfig.doubling 2000 .zero with maxDelay := .ofSecs 5 } ∧
      c.backoff 1024 = .zero ∧ c.backoff 1025 = .ofSecs 5 ∧
      { c with multiplier := 1e200 }.backoff 2 = .zero ∧
      { c with multiplier := 1e200 }.backoff 3 = .ofSecs 5 := by
  obtain ⟨c, eq⟩ : ∃ c : RetryConfig,
    c = { RetryConfig.doubling 2000 .zero with maxDelay := .ofSecs 5 } := ⟨_, rfl⟩
  refine ⟨c, eq, ?_, ?_, ?_, ?_⟩
  · obtain ⟨-, -, nothing, -, -, early, -⟩ := pauses_jump_at_overflow c 1024
    subst eq
    exact nothing rfl (early (by decide +kernel) (Nat.le_refl _))
  · obtain ⟨-, -, -, limit, -, -, late, -⟩ := pauses_jump_at_overflow c 1025
    subst eq
    exact limit (late (by decide +kernel) (Nat.le_refl _))
  · obtain ⟨-, -, nothing, -⟩ := pauses_jump_at_overflow { c with multiplier := 1e200 } 2
    subst eq
    exact nothing rfl (by unfold Overflows; decide +kernel)
  · obtain ⟨-, -, -, limit, -⟩ := pauses_jump_at_overflow { c with multiplier := 1e200 } 3
    subst eq
    exact limit (by unfold Overflows; decide +kernel)

end RetryConfig

end Telemetry
