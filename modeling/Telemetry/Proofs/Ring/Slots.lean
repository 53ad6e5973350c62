import Telemetry.Proofs.Ring.Content

set_option autoImplicit false

/-! # Slots by number

Every word names a slot by its low bits, and of the positions in a window of one lap exactly one is
in each slot. Reads and writes of a slot are here read off the array. -/

namespace Telemetry.Ring

variable {α : Type} {c : Config}

/-! ## Slots of words -/

/-- The number of a word's slot. -/
def Config.slotOf (c : Config) (w : UInt64) : Nat :=
  w.toNat % c.oneLap.toNat

theorem Config.slotOf_position (c : Config) (fits : c.Fits) (n : Nat) :
    c.slotOf (c.position n) = n % c.capacity.toNat :=
  c.position_mod_oneLap fits n

section Slots

variable {r r' : Ring α} {w : UInt64} {slot : Slot α}

theorem stampAt_of_slot (config : r.config = c) (fits : c.Fits)
    (here : r.slots[c.slotOf w]? = some slot) : r.stampAt w = slot.stamp := by
  subst config
  rw [stampAt, toNat_index r fits]
  change r.slots[w.toNat % r.config.oneLap.toNat]? = some slot at here
  rw [here]

theorem valueAt_of_slot (config : r.config = c) (fits : c.Fits)
    (here : r.slots[c.slotOf w]? = some slot) : r.valueAt w = slot.value := by
  subst config
  rw [valueAt, toNat_index r fits]
  change r.slots[w.toNat % r.config.oneLap.toNat]? = some slot at here
  rw [here]

theorem slots_setStamp (config : r.config = c) (fits : c.Fits) (w stamp : UInt64) (i : Nat) :
    (r.setStamp w stamp).slots[i]?
      = if c.slotOf w = i then r.slots[i]?.map fun slot => { slot with stamp := stamp }
        else r.slots[i]? := by
  subst config
  rw [setStamp, toNat_index r fits, Array.getElem?_modify]
  rfl

theorem slots_setValue (config : r.config = c) (fits : c.Fits) (w : UInt64) (value : Option α)
    (i : Nat) :
    (r.setValue w value).slots[i]?
      = if c.slotOf w = i then r.slots[i]?.map fun slot => { slot with value := value }
        else r.slots[i]? := by
  subst config
  rw [setValue, toNat_index r fits, Array.getElem?_modify]
  rfl

/-- A stamp changes only with its slot. -/
theorem stampAt_congr (config : r.config = c) (config' : r'.config = c) (fits : c.Fits)
    (same : r'.slots[c.slotOf w]? = r.slots[c.slotOf w]?) : r'.stampAt w = r.stampAt w := by
  have index : (r'.index w).toNat = (r.index w).toNat := by
    rw [toNat_index r' (config' ▸ fits), toNat_index r (config ▸ fits), config, config']
  have slot : c.slotOf w = (r.index w).toNat := by
    rw [toNat_index r (config ▸ fits), config]
    rfl
  rw [slot] at same
  rw [stampAt, stampAt, index, same]

end Slots

/-! ## The window at the head -/

/-- Every slot has a position in the window of one lap behind any position. -/
theorem exists_in_window {capacity i : Nat} (head : Nat) (hi : i < capacity) :
    ∃ n, head ≤ n ∧ n < head + capacity ∧ n % capacity = i := by
  have slot := Nat.mod_lt head (Nat.zero_lt_of_lt hi)
  refine ⟨head + (i + (capacity - head % capacity)) % capacity, Nat.le_add_right .., ?_, ?_⟩
  · exact Nat.add_lt_add_left (Nat.mod_lt _ (Nat.zero_lt_of_lt hi)) head
  · have around : head + (i + (capacity - head % capacity))
        = i + capacity * (head / capacity + 1) := by
      have split := Nat.div_add_mod head capacity
      rw [Nat.mul_add, Nat.mul_one]
      omega
    rw [Nat.add_mod_mod, around, Nat.add_mul_mod_self_left, Nat.mod_eq_of_lt hi]

/-- It has only one. -/
theorem window_inj {capacity head n n' : Nat} (hn : head ≤ n) (hn' : n < head + capacity)
    (hm : head ≤ n') (hm' : n' < head + capacity) (same : n % capacity = n' % capacity) :
    n = n' := by
  obtain ⟨d, rfl⟩ := Nat.exists_eq_add_of_le hn
  obtain ⟨d', rfl⟩ := Nat.exists_eq_add_of_le hm
  rw [slot_inj head (Nat.lt_of_add_lt_add_left hn') (Nat.lt_of_add_lt_add_left hm') same]

end Telemetry.Ring
