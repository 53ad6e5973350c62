import Mathlib.Data.Nat.ModEq
import Mathlib.Tactic.Ring
import Telemetry.Ring.Basic

set_option autoImplicit false

/-! # Positions counted without bound

Head and tail are words that wrap around. Behind them stands a plain count: the number of records
ever taken, and the number ever stored. `Config.position n` is the word of position number `n`,
the lap of `n` in its high bits and the slot of `n` in its low bits. Everything that a ring computes
from words (`index`, `next`, `lapAhead`, `distance`) is here read off the counts, for every capacity
whose lap fits into 64 bits and for counts of any size. -/

namespace Telemetry.Ring

variable {α : Type}

/-! ## The length of a lap -/

/-- Capacities whose lap is below 2^64, so that it can be written as a word. -/
def Config.Fits (c : Config) : Prop :=
  c.capacity.toNat + 1 ≤ 2 ^ 63

theorem Config.capacity_toNat_pos (c : Config) : 0 < c.capacity.toNat := by
  simpa [UInt64.lt_iff_toNat_lt] using c.capacity_pos

theorem Config.toNat_capacity_add_one (c : Config) (below : c.capacity.toNat + 1 < 2 ^ 64) :
    (c.capacity + 1).toNat = c.capacity.toNat + 1 := by
  rw [UInt64.toNat_add, UInt64.toNat_one]
  exact Nat.mod_eq_of_lt below

/-- The length of a lap is worked out as a number and then reduced to a word. -/
theorem Config.toNat_oneLap (c : Config) (below : c.capacity.toNat + 1 < 2 ^ 64) :
    c.oneLap.toNat = 2 ^ (c.capacity.toNat.log2 + 1) % 2 ^ 64 := by
  have hpos := c.capacity_toNat_pos
  have hsucc := c.toNat_capacity_add_one below
  have hgt : ¬ c.capacity + 1 ≤ 1 := by
    rw [UInt64.le_iff_toNat_le, hsucc, UInt64.toNat_one]; omega
  rw [Config.oneLap, Config.nextPowerOfTwo, if_neg hgt, hsucc, Nat.add_sub_cancel,
    UInt64.toNat_ofNat']
  rfl

theorem Config.Fits.toNat_oneLap {c : Config} (fits : c.Fits) :
    c.oneLap.toNat = 2 ^ (c.capacity.toNat.log2 + 1) := by
  unfold Config.Fits at fits
  have hpos := c.capacity_toNat_pos
  have hlog : c.capacity.toNat.log2 < 63 := (Nat.log2_lt (by omega)).2 (by omega)
  rw [c.toNat_oneLap (by omega)]
  exact Nat.mod_eq_of_lt (Nat.pow_lt_pow_right (by decide) (by omega))

/-- A lap is a power of two above the capacity. -/
theorem Config.Fits.oneLap_eq {c : Config} (fits : c.Fits) :
    ∃ k, 1 ≤ k ∧ k ≤ 63 ∧ c.oneLap.toNat = 2 ^ k ∧ c.capacity.toNat < 2 ^ k := by
  have hpos := c.capacity_toNat_pos
  have hbound : c.capacity.toNat < 2 ^ 63 := by unfold Config.Fits at fits; omega
  have hlog : c.capacity.toNat.log2 < 63 := (Nat.log2_lt (by omega)).2 hbound
  exact ⟨_, by omega, by omega, fits.toNat_oneLap, Nat.lt_log2_self⟩

/-- The mask of the low bits. -/
theorem Config.Fits.toNat_oneLap_sub_one {c : Config} (fits : c.Fits) :
    (c.oneLap - 1).toNat = c.oneLap.toNat - 1 := by
  have hle : (1 : UInt64) ≤ c.oneLap := by
    rw [UInt64.le_iff_toNat_le, fits.toNat_oneLap, UInt64.toNat_one]
    exact Nat.one_le_two_pow
  rw [UInt64.toNat_sub_of_le _ _ hle, UInt64.toNat_one]

/-- The word of position number `n`. -/
def Config.position (c : Config) (n : Nat) : UInt64 :=
  UInt64.ofNat (n / c.capacity.toNat * c.oneLap.toNat + n % c.capacity.toNat)

@[simp] theorem Config.position_zero (c : Config) : c.position 0 = 0 := by
  simp [Config.position]

/-! ## Slot and lap of a word -/

theorem toNat_index (r : Ring α) (fits : r.config.Fits) (p : UInt64) :
    (r.index p).toNat = p.toNat % r.config.oneLap.toNat := by
  rw [index, UInt64.toNat_and, fits.toNat_oneLap_sub_one, fits.toNat_oneLap,
    Nat.and_two_pow_sub_one_eq_mod]

theorem lap_add_index (r : Ring α) (p : UInt64) : r.lap p + r.index p = p := by
  apply UInt64.eq_of_toBitVec_eq
  simp only [lap, index, UInt64.toBitVec_add, UInt64.toBitVec_and, UInt64.toBitVec_not]
  generalize (r.config.oneLap - 1).toBitVec = m
  have hdisjoint : p.toBitVec &&& ~~~m &&& (p.toBitVec &&& m) = 0#64 := by
    ext i
    simp
    grind
  rw [BitVec.add_eq_or_of_and_eq_zero _ _ hdisjoint]
  ext i
  simp
  grind

/-! ## Words of positions -/

theorem Config.position_toNat (c : Config) (n : Nat) :
    (c.position n).toNat
      = (n / c.capacity.toNat * c.oneLap.toNat + n % c.capacity.toNat) % 2 ^ 64 := by
  rw [Config.position, UInt64.toNat_ofNat']

/-- The low bits of a position name its slot. -/
theorem Config.position_mod_oneLap (c : Config) (fits : c.Fits) (n : Nat) :
    (c.position n).toNat % c.oneLap.toNat = n % c.capacity.toNat := by
  obtain ⟨k, hk, hk', hlap, hcap⟩ := fits.oneLap_eq
  have hslot : n % c.capacity.toNat < 2 ^ k :=
    Nat.lt_trans (Nat.mod_lt _ c.capacity_toNat_pos) hcap
  rw [Config.position_toNat, hlap, Nat.mod_mod_of_dvd _ (Nat.pow_dvd_pow 2 (by omega)),
    Nat.mul_comm, Nat.mul_add_mod, Nat.mod_eq_of_lt hslot]

theorem toNat_index_position (r : Ring α) (fits : r.config.Fits) (n : Nat) :
    (r.index (r.config.position n)).toNat = n % r.config.capacity.toNat := by
  rw [toNat_index r fits, Config.position_mod_oneLap _ fits]

/-- One lap further on is the same slot, one lap up. -/
theorem Config.position_add_capacity (c : Config) (n : Nat) :
    c.position (n + c.capacity.toNat) = c.position n + c.oneLap := by
  rw [← UInt64.toNat_inj, UInt64.toNat_add, Config.position_toNat, Config.position_toNat,
    Nat.add_div_right _ c.capacity_toNat_pos, Nat.add_mod_right, Nat.mod_add_mod]
  congr 1
  ring

/-- Within a lap the words of positions follow each other. -/
theorem Config.position_succ (c : Config) (n : Nat)
    (h : n % c.capacity.toNat + 1 < c.capacity.toNat) : c.position (n + 1) = c.position n + 1 := by
  have hpos := c.capacity_toNat_pos
  have hdiv : (n + 1) / c.capacity.toNat = n / c.capacity.toNat := by
    rw [Nat.succ_div_of_not_dvd]
    intro hdvd
    have := Nat.mod_eq_zero_of_dvd hdvd
    rw [Nat.add_mod, Nat.mod_eq_of_lt (by omega : 1 < c.capacity.toNat),
      Nat.mod_eq_of_lt h] at this
    omega
  have hmod : (n + 1) % c.capacity.toNat = n % c.capacity.toNat + 1 := by
    rw [Nat.add_mod, Nat.mod_eq_of_lt (by omega : 1 < c.capacity.toNat), Nat.mod_eq_of_lt h]
  rw [Config.position, Config.position, hdiv, hmod, ← Nat.add_assoc, UInt64.ofNat_add]
  rfl

/-- The high bits of a position are its lap. -/
theorem lap_position (r : Ring α) (fits : r.config.Fits) (n : Nat) :
    r.lap (r.config.position n)
      = UInt64.ofNat (n / r.config.capacity.toNat * r.config.oneLap.toNat) := by
  have hindex : r.index (r.config.position n) = UInt64.ofNat (n % r.config.capacity.toNat) := by
    rw [← UInt64.toNat_inj, toNat_index_position r fits, UInt64.toNat_ofNat_of_lt']
    exact Nat.lt_trans (Nat.mod_lt _ r.config.capacity_toNat_pos) r.config.capacity.toNat_lt
  have hsplit := lap_add_index r (r.config.position n)
  rw [hindex] at hsplit
  conv at hsplit => rhs; rw [Config.position, UInt64.ofNat_add]
  exact (UInt64.add_left_inj _).1 hsplit

/-- `next` is the step from a position to the position after it. -/
theorem next_position (r : Ring α) (fits : r.config.Fits) (n : Nat) :
    r.next (r.config.position n) = r.config.position (n + 1) := by
  have hpos := r.config.capacity_toNat_pos
  have hslot := Nat.mod_lt n hpos
  have hword := r.config.capacity.toNat_lt
  have hindex : (r.index (r.config.position n) + 1).toNat = n % r.config.capacity.toNat + 1 := by
    rw [UInt64.toNat_add, toNat_index_position r fits, UInt64.toNat_one]
    omega
  simp only [next, UInt64.lt_iff_toNat_lt, hindex]
  split
  · rename_i hlt
    exact (r.config.position_succ n hlt).symm
  · -- the last slot of a lap: `n + 1` is the lap's first position, moved one lap up
    rename_i hlast
    have hnext : n + 1 = n / r.config.capacity.toNat * r.config.capacity.toNat
        + r.config.capacity.toNat := by
      have := Nat.div_add_mod' n r.config.capacity.toNat
      omega
    rw [hnext, Config.position_add_capacity, lap_position r fits, Config.position,
      Nat.mul_div_cancel _ hpos, Nat.mul_mod_left, Nat.add_zero]

/-! ## Words that differ -/

/-- The low bits of the stamp of a full slot; the step to it never leaves the lap. -/
theorem Config.stamp_mod_oneLap (c : Config) (fits : c.Fits) (n : Nat) :
    (c.position n + 1).toNat % c.oneLap.toNat = n % c.capacity.toNat + 1 := by
  obtain ⟨k, hk, hk', hlap, hcap⟩ := fits.oneLap_eq
  have hslot := Nat.mod_lt n c.capacity_toNat_pos
  have hlow := c.position_mod_oneLap fits n
  rw [hlap] at hlow ⊢
  rw [UInt64.toNat_add, UInt64.toNat_one, Nat.mod_mod_of_dvd _ (Nat.pow_dvd_pow 2 (by omega)),
    ← Nat.mod_add_mod, hlow, Nat.mod_eq_of_lt (by omega)]

/-- The stamp of a full slot is never the position of an empty one. -/
theorem Config.stamp_ne_position (c : Config) (fits : c.Fits) {m n : Nat}
    (h : m % c.capacity.toNat = n % c.capacity.toNat) : c.position m + 1 ≠ c.position n := by
  intro heq
  have hlow := c.stamp_mod_oneLap fits m
  rw [heq, c.position_mod_oneLap fits, h] at hlow
  omega

/-- A position and the one a lap further on are different words. -/
theorem Config.position_add_capacity_ne (c : Config) (fits : c.Fits) (n : Nat) :
    c.position (n + c.capacity.toNat) ≠ c.position n := by
  obtain ⟨k, hk, hk', hlap, hcap⟩ := fits.oneLap_eq
  intro heq
  rw [c.position_add_capacity] at heq
  have hzero : c.oneLap.toNat = 0 := by
    rw [UInt64.add_eq_left.1 heq, UInt64.toNat_zero]
  rw [hlap] at hzero
  exact absurd hzero (Nat.two_pow_pos k).ne'

/-- How many laps can be told apart. -/
def Config.lapLimit (c : Config) : Nat :=
  2 ^ 64 / c.oneLap.toNat

/-- Within that many laps, different positions are different words. -/
theorem Config.position_inj (c : Config) (fits : c.Fits) {m n : Nat}
    (hm : m < c.capacity.toNat * c.lapLimit) (hn : n < c.capacity.toNat * c.lapLimit)
    (h : c.position m = c.position n) : m = n := by
  obtain ⟨k, hk, hk', hlap, hcap⟩ := fits.oneLap_eq
  have hlimit : c.lapLimit = 2 ^ (64 - k) := by
    rw [lapLimit, hlap]
    exact Nat.pow_div (by omega) (by decide)
  have hword {n : Nat} (hn : n < c.capacity.toNat * c.lapLimit) :
      (c.position n).toNat = n / c.capacity.toNat * 2 ^ k + n % c.capacity.toNat := by
    have hslot := Nat.mod_lt n c.capacity_toNat_pos
    have hdiv : n / c.capacity.toNat + 1 ≤ 2 ^ (64 - k) := by
      rw [← hlimit]
      exact Nat.div_lt_of_lt_mul hn
    have hmul := Nat.mul_le_mul_right (2 ^ k) hdiv
    rw [← Nat.pow_add, Nat.sub_add_cancel (by omega), Nat.add_mul, Nat.one_mul] at hmul
    rw [c.position_toNat, hlap]
    exact Nat.mod_eq_of_lt (by omega)
  have hslot : m % c.capacity.toNat = n % c.capacity.toNat := by
    rw [← c.position_mod_oneLap fits, h, c.position_mod_oneLap fits]
  have hwords := (hword hm).symm.trans ((congrArg UInt64.toNat h).trans (hword hn))
  rw [hslot] at hwords
  have hlaps := Nat.eq_of_mul_eq_mul_right (Nat.two_pow_pos k) (Nat.add_right_cancel hwords)
  rw [← Nat.div_add_mod m c.capacity.toNat, hlaps, hslot, Nat.div_add_mod]

/-- The lap of a capacity from 2^63 on is 2^64, for which there is no word. -/
theorem Config.oneLap_eq_zero (c : Config) (hcap : c.capacity.toNat + 1 < 2 ^ 64)
    (hlarge : 2 ^ 63 ≤ c.capacity.toNat) : c.oneLap = 0 := by
  have hlog : c.capacity.toNat.log2 = 63 := (Nat.log2_eq_iff (by omega)).2 (by omega)
  rw [← UInt64.toNat_inj, c.toNat_oneLap hcap, hlog]
  rfl

/-- A capacity whose lap cannot be written as a word leaves no laps. -/
theorem Config.fits_of_laps (c : Config) (hcap : c.capacity.toNat + 1 < 2 ^ 64)
    (hlaps : 0 < c.lapLimit) : c.Fits := by
  by_contra hlong
  have hlarge : 2 ^ 63 ≤ c.capacity.toNat := by unfold Config.Fits at hlong; omega
  rw [lapLimit, c.oneLap_eq_zero hcap hlarge, UInt64.toNat_zero, Nat.div_zero] at hlaps
  exact Nat.lt_irrefl 0 hlaps

/-! ## Two positions at most one lap apart

`head` and `tail` stand for the counts of records taken and stored; a ring keeps them in a window
of one lap. -/

section Window

variable (r : Ring α) {head tail : Nat}

/-- Within the window, equal words are equal counts. -/
theorem position_eq_iff (fits : r.config.Fits) (hle : head ≤ tail)
    (hcap : tail ≤ head + r.config.capacity.toNat) :
    r.config.position tail = r.config.position head ↔ tail = head := by
  constructor
  · intro heq
    have hslot : tail % r.config.capacity.toNat = head % r.config.capacity.toNat := by
      rw [← r.config.position_mod_oneLap fits, heq, r.config.position_mod_oneLap fits]
    obtain ⟨d, hd⟩ := Nat.exists_eq_add_of_le hle
    have hdvd : r.config.capacity.toNat ∣ d := by
      have := (Nat.modEq_iff_dvd' hle).1 hslot.symm
      rwa [hd, Nat.add_sub_cancel_left] at this
    have hends : d = 0 ∨ d = r.config.capacity.toNat := by
      rcases Nat.eq_zero_or_pos d with hd0 | hd0
      · exact Or.inl hd0
      · exact Or.inr (Nat.le_antisymm (by omega) (Nat.le_of_dvd hd0 hdvd))
    rcases hends with hd0 | hd0
    · omega
    · rw [hd, hd0] at heq
      exact absurd heq (r.config.position_add_capacity_ne fits head)
  · rintro rfl
    rfl

/-- The tail is one lap ahead exactly when all slots are taken. -/
theorem lapAhead_position (fits : r.config.Fits) (hle : head ≤ tail)
    (hcap : tail ≤ head + r.config.capacity.toNat) :
    r.lapAhead (r.config.position head) (r.config.position tail)
      = decide (tail = head + r.config.capacity.toNat) := by
  rw [lapAhead, ← r.config.position_add_capacity, Bool.eq_iff_iff, beq_iff_eq, decide_eq_true_iff]
  rw [eq_comm (a := tail)]
  exact position_eq_iff r fits hcap (by omega)

/-- The slot of the tail, from the slot of the head. -/
theorem slot_of_window {capacity d : Nat} (hpos : 0 < capacity) (h : d ≤ capacity) (n : Nat) :
    (n + d) % capacity = if n % capacity + d < capacity then n % capacity + d
      else n % capacity + d - capacity := by
  have hslot := Nat.mod_lt n hpos
  rw [← Nat.mod_add_mod]
  split
  · rename_i hlt
    exact Nat.mod_eq_of_lt hlt
  · rename_i hge
    rw [Nat.mod_eq_sub_mod (by omega)]
    rcases Nat.lt_or_ge (n % capacity + d - capacity) capacity with hlt | hge'
    · exact Nat.mod_eq_of_lt hlt
    · omega

/-- `distance` is the difference of the counts. -/
theorem distance_position (fits : r.config.Fits) (hle : head ≤ tail)
    (hcap : tail ≤ head + r.config.capacity.toNat) :
    (r.distance (r.config.position head) (r.config.position tail)).toNat = tail - head := by
  have hpos := r.config.capacity_toNat_pos
  have hhead := toNat_index_position r fits head
  have htail := toNat_index_position r fits tail
  obtain ⟨d, rfl⟩ := Nat.exists_eq_add_of_le hle
  have hslot := Nat.mod_lt head hpos
  have hsame := position_eq_iff r fits hle hcap
  rw [slot_of_window hpos (by omega)] at htail
  have hword := r.config.capacity.toNat_lt
  simp only [distance, UInt64.lt_iff_toNat_lt]
  rcases Nat.lt_trichotomy (r.index (r.config.position head)).toNat
    (r.index (r.config.position (head + d))).toNat with hlt | heq | hgt
  · -- the tail is further up the same lap
    rw [if_pos hlt, UInt64.toNat_sub_of_le _ _ (by rw [UInt64.le_iff_toNat_le]; omega)]
    split at htail <;> omega
  · -- one slot for both: the ring is empty or full
    rw [if_neg (by omega), if_neg (by omega)]
    split
    · rename_i hempty
      have := hsame.1 hempty
      rw [UInt64.toNat_zero]
      omega
    · rename_i hfull
      have : d ≠ 0 := by
        rintro rfl
        exact hfull rfl
      split at htail <;> omega
  · -- the tail is in the lap after the head's
    rw [if_neg (by omega), if_pos hgt, UInt64.toNat_add,
      UInt64.toNat_sub_of_le _ _ (by rw [UInt64.le_iff_toNat_le]; omega)]
    split at htail <;> omega

end Window

end Telemetry.Ring
