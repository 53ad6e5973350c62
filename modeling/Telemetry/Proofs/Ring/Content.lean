import Telemetry.Proofs.Ring.Position
import Telemetry.Ring.Operations

set_option autoImplicit false

/-! # What a ring holds

`Holds r items head` says that the slots of `r` hold exactly the records `items`, of which the
first is record number `head`, and that every stamp is the one its slot must carry. Storing appends
to `items` and taking removes the first; both keep the relation, whatever `head` is, so the words
may have wrapped around any number of times. An operation that runs alone on such a ring goes
straight to its end. -/

namespace Telemetry.Ring

variable {α : Type}

/-- The slot of position number `n` when it holds a record, and when it waits for one. -/
def Config.cell (c : Config) (n : Nat) : Option α → Slot α
  | some a => ⟨c.position n + 1, some a⟩
  | none => ⟨c.position n, none⟩

/-- The ring holds `items`, the oldest first; `head` records were taken before. -/
structure Holds (r : Ring α) (items : List α) (head : Nat) : Prop where
  fits : r.config.Fits
  bounded : items.length ≤ r.config.capacity.toNat
  head_eq : r.head = r.config.position head
  tail_eq : r.tail = r.config.position (head + items.length)
  slot : ∀ j < r.config.capacity.toNat,
    r.slots[(head + j) % r.config.capacity.toNat]? = some (r.config.cell (head + j) items[j]?)

/-- A new ring holds nothing. -/
theorem holds_new (config : Config) (fits : config.Fits) :
    Holds (Ring.new config : Ring α) [] 0 where
  fits := fits
  bounded := Nat.zero_le _
  head_eq := by simp [Ring.new]
  tail_eq := by simp [Ring.new]
  slot := by
    intro j hj
    change j < config.capacity.toNat at hj
    have hposition : config.position j = j.toUInt64 := by
      rw [Config.position, Nat.div_eq_of_lt hj, Nat.mod_eq_of_lt hj, Nat.zero_mul, Nat.zero_add]
    simp [Ring.new, Config.cell, Nat.mod_eq_of_lt hj, hj, hposition]

/-! ## Storing and taking as plain changes of a ring -/

/-- The ring with a record stored at its tail. -/
def put (r : Ring α) (a : α) : Ring α :=
  (({ r with tail := r.next r.tail }).setValue r.tail (some a)).setStamp r.tail (r.tail + 1)

/-- The ring with the record at its head taken out. -/
def dropOldest (r : Ring α) : Ring α :=
  (({ r with head := r.next r.head }).setValue r.head none).setStamp r.head
    (r.head + r.config.oneLap)

/-- Writing record and stamp of one slot leaves the other slots as they are. -/
theorem slots_write (r : Ring α) (p stamp : UInt64) (value : Option α) (i : Nat) :
    ((r.setValue p value).setStamp p stamp).slots[i]?
      = if (r.index p).toNat = i then r.slots[i]?.map fun _ => ⟨stamp, value⟩
        else r.slots[i]? := by
  have hindex : (r.setValue p value).index p = r.index p := rfl
  rw [setStamp, hindex]
  simp only [setValue, Array.getElem?_modify]
  split
  · rw [Option.map_map]
    rfl
  · rfl

/-- Different places of one window have different slots. -/
theorem slot_inj {capacity i j : Nat} (head : Nat) (hi : i < capacity) (hj : j < capacity)
    (h : (head + i) % capacity = (head + j) % capacity) : i = j := by
  have := Nat.ModEq.add_left_cancel' head h
  rwa [Nat.ModEq, Nat.mod_eq_of_lt hi, Nat.mod_eq_of_lt hj] at this

section

variable {r : Ring α} {items : List α} {head : Nat}

theorem Holds.put (h : Holds r items head) (room : items.length < r.config.capacity.toNat)
    (a : α) : Holds (r.put a) (items ++ [a]) head where
  fits := h.fits
  bounded := by
    change (items ++ [a]).length ≤ r.config.capacity.toNat
    rw [List.length_append]
    exact room
  head_eq := h.head_eq
  tail_eq := by
    change r.next r.tail = r.config.position (head + (items ++ [a]).length)
    rw [h.tail_eq, next_position r h.fits, List.length_append]
    rfl
  slot := by
    intro j hj
    change j < r.config.capacity.toNat at hj
    change (r.put a).slots[(head + j) % r.config.capacity.toNat]?
      = some (r.config.cell (head + j) (items ++ [a])[j]?)
    rw [Ring.put, slots_write]
    change (if (r.index r.tail).toNat = _ then _ else _) = _
    rw [h.tail_eq, toNat_index_position r h.fits]
    -- Only the slot behind the last record is written; no other place of the window has it.
    by_cases hnew : j = items.length
    · subst hnew
      rw [if_pos rfl]
      change Option.map _ r.slots[_]? = _
      rw [h.slot _ hj]
      simp [Config.cell]
    · rw [if_neg fun heq => hnew (slot_inj head hj room heq.symm)]
      change r.slots[_]? = _
      rw [h.slot _ hj]
      rcases Nat.lt_or_ge j items.length with hlt | hge
      · rw [List.getElem?_append_left hlt]
      · rw [List.getElem?_eq_none hge, List.getElem?_eq_none]
        rw [List.length_append, List.length_singleton]
        omega

theorem Holds.dropOldest {a : α} (h : Holds r (a :: items) head) :
    Holds r.dropOldest items (head + 1) where
  fits := h.fits
  bounded := Nat.le_of_succ_le h.bounded
  head_eq := by
    change r.next r.head = _
    rw [h.head_eq, next_position r h.fits]
    rfl
  tail_eq := by
    change r.tail = r.config.position (head + 1 + items.length)
    rw [h.tail_eq, List.length_cons]
    congr 1
    omega
  slot := by
    intro j hj
    change j < r.config.capacity.toNat at hj
    change r.dropOldest.slots[(head + 1 + j) % r.config.capacity.toNat]?
      = some (r.config.cell (head + 1 + j) items[j]?)
    rw [Ring.dropOldest, slots_write]
    change (if (r.index r.head).toNat = _ then Option.map _ r.slots[_]? else r.slots[_]?) = _
    rw [h.head_eq, toNat_index_position r h.fits, Nat.add_right_comm, Nat.add_assoc]
    rcases Nat.lt_or_ge (j + 1) r.config.capacity.toNat with hlt | hge
    · rw [if_neg, h.slot _ hlt, List.getElem?_cons_succ]
      intro heq
      have := slot_inj head r.config.capacity_toNat_pos hlt heq
      omega
    · -- the freed slot is the last one of the window that starts at the next record
      have hlast : j + 1 = r.config.capacity.toNat := by omega
      have hbound := h.bounded
      have hnone : items[j]? = none := by
        rw [List.getElem?_eq_none]
        rw [List.length_cons] at hbound
        omega
      have hzero := h.slot 0 r.config.capacity_toNat_pos
      rw [Nat.add_zero] at hzero
      rw [hlast, Nat.add_mod_right, if_pos rfl, hzero, hnone, Config.cell,
        Config.position_add_capacity]
      rfl

/-! ## An operation on its own -/

theorem Holds.stampAt_position (h : Holds r items head) {j : Nat}
    (hj : j < r.config.capacity.toNat) :
    r.stampAt (r.config.position (head + j)) = (r.config.cell (head + j) items[j]?).stamp := by
  rw [stampAt, toNat_index_position r h.fits, h.slot j hj]

theorem Holds.valueAt_head {a : α} (h : Holds r (a :: items) head) :
    r.valueAt r.head = some a := by
  have hzero := h.slot 0 r.config.capacity_toNat_pos
  rw [Nat.add_zero] at hzero
  rw [valueAt, h.head_eq, toNat_index_position r h.fits, hzero]
  rfl

/-- The stamp that an operation at the tail finds: its own position if there is room. -/
theorem Holds.stamp_of_room (h : Holds r items head)
    (room : items.length < r.config.capacity.toNat) : r.stampAt r.tail = r.tail := by
  rw [h.tail_eq, h.stampAt_position room, List.getElem?_eq_none (Nat.le_refl _)]
  rfl

/-- In a full ring an operation at the tail finds the oldest record, one lap behind. -/
theorem Holds.stamp_of_full (h : Holds r items head)
    (full : items.length = r.config.capacity.toNat) :
    r.tail ≠ r.stampAt r.tail ∧ r.stampAt r.tail + r.config.oneLap = r.tail + 1 := by
  have hpos := r.config.capacity_toNat_pos
  -- The tail has come back to the slot of the oldest record.
  have hstamp : r.stampAt r.tail = r.config.position head + 1 := by
    have hsame : r.stampAt r.tail = r.stampAt (r.config.position head) := by
      rw [stampAt, stampAt, h.tail_eq, toNat_index_position r h.fits, full, Nat.add_mod_right,
        ← toNat_index_position r h.fits]
    have hfirst := h.stampAt_position hpos
    rw [Nat.add_zero] at hfirst
    rw [hsame, hfirst, List.getElem?_eq_getElem (by omega)]
    rfl
  rw [hstamp, h.tail_eq, full]
  constructor
  · exact (r.config.stamp_ne_position h.fits (by rw [Nat.add_mod_right])).symm
  · rw [Config.position_add_capacity]
    rw [UInt64.add_assoc, UInt64.add_comm 1, ← UInt64.add_assoc]

/-- A full ring looks full: its tail is one lap ahead of its head. -/
theorem Holds.lapAhead_of_full (h : Holds r items head)
    (full : items.length = r.config.capacity.toNat) : r.lapAhead r.head r.tail = true := by
  rw [h.head_eq, h.tail_eq, lapAhead_position r h.fits (Nat.le_add_right ..) (by omega), full]
  exact decide_eq_true rfl

theorem Holds.tail_eq_head (h : Holds r [] head) : r.tail = r.head := by
  rw [h.tail_eq, h.head_eq]
  rfl

/-- At the head there is a record's stamp exactly if there is a record. -/
theorem Holds.stamp_of_cons {a : α} (h : Holds r (a :: items) head) :
    r.stampAt r.head = r.head + 1 := by
  have hfirst := h.stampAt_position r.config.capacity_toNat_pos
  rw [Nat.add_zero] at hfirst
  rw [h.head_eq, hfirst]
  rfl

theorem Holds.stamp_of_nil (h : Holds r [] head) : r.stampAt r.head = r.head := by
  have hfirst := h.stampAt_position r.config.capacity_toNat_pos
  rw [Nat.add_zero] at hfirst
  rw [h.head_eq, hfirst]
  rfl

end

/-- The places of an operation that runs alone for so many steps. -/
def walk : Nat → Ring α → Place α → List (Place α)
  | 0, _, place => [place]
  | steps + 1, r, place =>
    place :: walk steps (r.step false place).1 (r.step false place).2

/-- An operation that runs alone from `place` comes to its end and passes no place twice: it never
starts again, and none of its claims fails. -/
def GoesStraight (r : Ring α) (place : Place α) : Prop :=
  ∃ steps ≤ longestRun, (solo steps r place).2.isDone = true ∧ (walk steps r place).Nodup

section

variable {r : Ring α} {items : List α} {head : Nat}

theorem Holds.solo_push_of_room (h : Holds r items head)
    (room : items.length < r.config.capacity.toNat) (a : α) :
    solo longestRun r (.pushTail a) = (r.put a, .stored) := by
  simp [longestRun, solo, step, h.stamp_of_room room, Ring.put]

theorem Holds.solo_push_of_full (h : Holds r items head)
    (full : items.length = r.config.capacity.toNat) (a : α) :
    solo longestRun r (.pushTail a) = (r, .refused a) := by
  obtain ⟨hne, hlap⟩ := h.stamp_of_full full
  simp [longestRun, solo, step, hne, hlap, h.lapAhead_of_full full]

theorem Holds.solo_pop_of_cons {a : α} (h : Holds r (a :: items) head) :
    solo longestRun r .popHead = (r.dropOldest, .taken (some a)) := by
  have hvalue : ({ r with head := r.next r.head } : Ring α).valueAt r.head = some a :=
    h.valueAt_head
  simp [longestRun, solo, step, h.stamp_of_cons, hvalue, Ring.dropOldest]
  rfl

theorem Holds.solo_pop_of_nil (h : Holds r [] head) :
    solo longestRun r .popHead = (r, .nothing) := by
  simp [longestRun, solo, step, h.stamp_of_nil, h.tail_eq_head]

theorem Holds.goesStraight_push (h : Holds r items head) (a : α) :
    GoesStraight r (.pushTail a) := by
  rcases Nat.lt_or_ge items.length r.config.capacity.toNat with room | hge
  · refine ⟨5, Nat.le_refl _, ?_, ?_⟩
    · change (solo longestRun r _).2.isDone = true
      rw [h.solo_push_of_room room]
      rfl
    · simp [walk, step, h.stamp_of_room room]
  · have full := Nat.le_antisymm h.bounded hge
    obtain ⟨hne, hlap⟩ := h.stamp_of_full full
    have hahead := h.lapAhead_of_full full
    refine ⟨3, by decide, ?_, ?_⟩
    · simp [solo, step, hne, hlap, hahead, Place.isDone]
    · simp [walk, step, hne, hlap, hahead]

theorem Holds.goesStraight_pop (h : Holds r items head) :
    GoesStraight r (.popHead : Place α) := by
  cases items with
  | nil =>
      refine ⟨3, by decide, ?_, ?_⟩
      · simp [solo, step, h.stamp_of_nil, h.tail_eq_head, Place.isDone]
      · simp [walk, step, h.stamp_of_nil, h.tail_eq_head]
  | cons a items =>
      refine ⟨5, Nat.le_refl _, ?_, ?_⟩
      · change (solo longestRun r _).2.isDone = true
        rw [h.solo_pop_of_cons]
        rfl
      · simp [walk, step, h.stamp_of_cons]

/-- Reading the length alone ends at once, since nobody moves the tail meanwhile. -/
theorem goesStraight_length (r : Ring α) :
    solo 3 r .lengthTail = (r, .counted r.length) ∧ GoesStraight r .lengthTail := by
  have hrun : solo 3 r .lengthTail = (r, .counted r.length) := by
    simp [solo, step, length]
  refine ⟨hrun, 3, by decide, ?_, ?_⟩
  · rw [hrun]
    rfl
  · simp [walk, step]

/-! ## Status -/

theorem Holds.length_eq (h : Holds r items head) : r.length.toNat = items.length := by
  rw [length, h.head_eq, h.tail_eq,
    distance_position r h.fits (Nat.le_add_right ..) (Nat.add_le_add_left h.bounded _)]
  omega

theorem Holds.isEmpty_eq (h : Holds r items head) : r.isEmpty = items.isEmpty := by
  have hsame := position_eq_iff r h.fits (Nat.le_add_right head items.length)
    (Nat.add_le_add_left h.bounded _)
  rw [Bool.eq_iff_iff, isEmpty, beq_iff_eq, h.head_eq, h.tail_eq, hsame,
    List.isEmpty_iff_length_eq_zero]
  omega

theorem Holds.isFull_eq (h : Holds r items head) :
    r.isFull = decide (r.config.capacity.toNat ≤ items.length) := by
  have hbound := h.bounded
  rw [isFull, h.head_eq, h.tail_eq,
    lapAhead_position r h.fits (Nat.le_add_right ..) (Nat.add_le_add_left hbound _),
    decide_eq_decide]
  omega

end

end Telemetry.Ring
