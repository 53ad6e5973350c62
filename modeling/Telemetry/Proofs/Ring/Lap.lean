import Telemetry.Proofs.Ring.Position

set_option autoImplicit false

/-! # The length of a lap as a word

A lap is the least power of two above the capacity. Words end at 2^64, so there is such a word for
the capacities below 2^63 only. A ring may be asked to have any capacity that is a word; the sum and
the power behind the length of a lap may then wrap around, and what is left of it names no slots. -/

namespace Telemetry.Ring

/-- The length of a lap is worked out without leaving the words, as the least power of two above the
capacity, `2^k`, and its low bits are those that name the slots. -/
structure Config.LapIs (c : Config) (k : Nat) : Prop where
  add_one : (c.capacity + 1).toNat = c.capacity.toNat + 1
  oneLap : c.oneLap.toNat = 2 ^ k
  above : c.capacity.toNat < 2 ^ k
  least : ∀ j, c.capacity.toNat < 2 ^ j → k ≤ j
  mask : ∀ i, (c.oneLap - 1).toNat.testBit i = decide (i < k)
  low_bits : ∀ w : UInt64, (w &&& (c.oneLap - 1)).toNat = w.toNat % 2 ^ k

theorem Config.Fits.lapIs {c : Config} (fits : c.Fits) :
    c.LapIs (c.capacity.toNat.log2 + 1) where
  add_one := c.toNat_capacity_add_one (Nat.lt_of_le_of_lt fits (by decide))
  oneLap := fits.toNat_oneLap
  above := Nat.lt_log2_self
  least := fun _ above => (Nat.log2_lt c.capacity_toNat_pos.ne').2 above
  mask := fun i => by
    rw [fits.toNat_oneLap_sub_one, fits.toNat_oneLap, Nat.testBit_two_pow_sub_one]
  low_bits := fun w => by
    rw [UInt64.toNat_and, fits.toNat_oneLap_sub_one, fits.toNat_oneLap,
      Nat.and_two_pow_sub_one_eq_mod]

/-- A power of two that is a word is at most 2^63. -/
theorem le_of_toNat_eq_two_pow {w : UInt64} {k : Nat} (power : w.toNat = 2 ^ k) :
    2 ^ k ≤ 2 ^ 63 := by
  have word : 2 ^ k < 2 ^ 64 := power ▸ w.toNat_lt
  exact Nat.pow_le_pow_right (by decide)
    (Nat.le_of_lt_succ ((Nat.pow_lt_pow_iff_right (by decide)).1 word))

theorem Config.LapIs.fits {c : Config} {k : Nat} (lap : c.LapIs k) : c.Fits :=
  Nat.le_trans lap.above (le_of_toNat_eq_two_pow lap.oneLap)

/-- The largest capacity wraps around before it is rounded. -/
theorem Config.oneLap_eq_one {c : Config} (wraps : c.capacity + 1 = 0) : c.oneLap = 1 := by
  rw [oneLap, wraps]
  rfl

/-- **Laps are exact below half of the words.** Every capacity but zero is accepted, and the lap
depends on nothing else. It is worked out without leaving the words, as the least power of two above
the capacity whose low bits name the slots, exactly if the capacity is below 2^63.

From 2^63 on no power of two above the capacity is a word. The power wraps around to zero, and then
no bit of a word is cut off; at the last capacity already the sum wraps around, the lap is one, and
every word names the first slot. -/
theorem laps_are_exact_below_half (n : UInt64) (pos : 0 < n) :
    (∃ c, Config.ofCapacity n = .ok c ∧ c.capacity = n) ∧
    ∀ c : Config, c.capacity = n →
      ((∃ k, c.LapIs k) ↔ n.toNat < 2 ^ 63) ∧
      (2 ^ 63 ≤ n.toNat →
        (∀ (w : UInt64) (k : Nat), w.toNat = 2 ^ k → w ≤ n) ∧
        (n + 1 ≠ 0 → c.oneLap = 0 ∧ ∀ w, w &&& (c.oneLap - 1) = w) ∧
        (n + 1 = 0 → c.oneLap = 1 ∧ ∀ w, w &&& (c.oneLap - 1) = 0)) := by
  refine ⟨⟨_, dif_pos pos, rfl⟩, ?_⟩
  rintro c rfl
  refine ⟨⟨fun ⟨k, lap⟩ => lap.fits, fun below => ⟨_, Config.Fits.lapIs below⟩⟩, fun large => ?_⟩
  refine ⟨fun w k power => ?_, fun inRange => ?_, fun wraps => ?_⟩
  · rw [UInt64.le_iff_toNat_le, power]
    exact (le_of_toNat_eq_two_pow power).trans large
  · have below : c.capacity.toNat + 1 < 2 ^ 64 := by
      have word := c.capacity.toNat_lt
      by_contra last
      refine inRange (UInt64.toNat_inj.1 ?_)
      rw [UInt64.toNat_add, UInt64.toNat_one, show c.capacity.toNat + 1 = 2 ^ 64 by omega]
      rfl
    rw [c.oneLap_eq_zero below large]
    exact ⟨rfl, fun w => UInt64.and_neg_one⟩
  · rw [Config.oneLap_eq_one wraps]
    exact ⟨rfl, fun w => UInt64.and_zero⟩

/-- The capacities before and behind 2^63, and the last one. -/
theorem laps_are_exact_below_half_of_three :
    (0 : UInt64) < 9223372036854775807 ∧ (0 : UInt64) < 9223372036854775808 ∧
      (0 : UInt64) < 18446744073709551615 ∧
    (∃ c, Config.ofCapacity 9223372036854775807 = .ok c ∧ ∃ k, c.LapIs k) ∧
    (∃ c, Config.ofCapacity 9223372036854775808 = .ok c ∧ c.oneLap = 0 ∧ ¬∃ k, c.LapIs k) ∧
    (∃ c, Config.ofCapacity 18446744073709551615 = .ok c ∧ c.oneLap = 1 ∧ ¬∃ k, c.LapIs k) := by
  refine ⟨by decide, by decide, by decide, ?_, ?_, ?_⟩
  · obtain ⟨⟨c, accepted, same⟩, laps⟩ :=
      laps_are_exact_below_half 9223372036854775807 (by decide)
    exact ⟨c, accepted, (laps c same).1.2 (by decide)⟩
  · obtain ⟨⟨c, accepted, same⟩, laps⟩ :=
      laps_are_exact_below_half 9223372036854775808 (by decide)
    obtain ⟨exact, beyond⟩ := laps c same
    exact ⟨c, accepted, ((beyond (by decide)).2.1 (by decide)).1, exact.not.2 (by decide)⟩
  · obtain ⟨⟨c, accepted, same⟩, laps⟩ :=
      laps_are_exact_below_half 18446744073709551615 (by decide)
    obtain ⟨exact, beyond⟩ := laps c same
    exact ⟨c, accepted, ((beyond (by decide)).2.2 (by decide)).1, exact.not.2 (by decide)⟩

end Telemetry.Ring
