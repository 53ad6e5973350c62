import Telemetry.Proofs.Ring.Shared
import Telemetry.Proofs.Ring.Slots

set_option autoImplicit false

/-! # Who owns a slot

A thread that has moved the tail or the head over a position owns the slot of that position until it
leaves a stamp there. `Sound` says what holds in between, behind every run: the tail and the head
stand for the numbers of positions claimed and taken; each slot of the window of one lap that starts
at the head is in one of six conditions (`Cell`), of which three have an owner; and each thread
knows something of the words that it read a while ago (`Place.Knows`).

The steps of the protocol touch one slot or none. `Touches` is what they have in common, and a step
only has to say what becomes of that slot. -/

namespace Telemetry.Ring

variable {α : Type} {c : Config} {h new : Deeds α}

/-! ## The six conditions of a slot -/

/-- What the slot of position number `n` of the window holds, and which thread owns it. -/
inductive Cell (c : Config) (h : Deeds α) (threads : List (Place α)) (n : Nat) :
    Option Nat → Slot α → Prop where
  /-- Nobody has claimed the position. -/
  | vacant : tailOf h ≤ n → Cell c h threads n none ⟨c.position n, none⟩
  /-- Its thread is about to write the record. -/
  | writing {t : Nat} {a : α} : (claimed h)[n]? = some (c.position n, a) →
      (t, .claims (c.position n) a) ∈ h → c.position n ∉ written h →
      threads[t]? = some (.pushWrite a (c.position n)) →
      Cell c h threads n (some t) ⟨c.position n, none⟩
  /-- The record is written. -/
  | publishing {t : Nat} {a : α} : (claimed h)[n]? = some (c.position n, a) →
      Wrote h (c.position n) a → threads[t]? = some (.pushPublish (c.position n)) →
      Cell c h threads n (some t) ⟨c.position n, some a⟩
  /-- The record can be taken. -/
  | full {a : α} : (claimed h)[n]? = some (c.position n, a) → Wrote h (c.position n) a →
      Cell c h threads n none ⟨c.position n + 1, some a⟩
  /-- The record of the lap before was taken, and its thread is about to read it. -/
  | reading {t m : Nat} {a : α} : n = m + c.capacity.toNat → tailOf h ≤ n →
      (claimed h)[m]? = some (c.position m, a) → Wrote h (c.position m) a →
      (t, .takes (c.position m)) ∈ h → c.position m ∉ read h →
      threads[t]? = some (.popRead (c.position m)) →
      Cell c h threads n (some t) ⟨c.position m + 1, some a⟩
  /-- The record of the lap before is read. -/
  | freeing {t m : Nat} {a : Option α} : n = m + c.capacity.toNat → tailOf h ≤ n →
      threads[t]? = some (.popFree (c.position m) a) →
      Cell c h threads n (some t) ⟨c.position m + 1, none⟩

/-- No thread but this one owns the slot. -/
def Alone (c : Config) (threads : List (Place α)) (i : Nat) (owner : Option Nat) : Prop :=
  ∀ t place w, threads[t]? = some place → place.owns? = some w → c.slotOf w = i → owner = some t

section Cells

variable {threads : List (Place α)} {n : Nat} {owner : Option Nat} {slot : Slot α}

/-- The owner of a slot holds a word of that slot. -/
theorem Cell.owns {t : Nat} (fits : c.Fits) (cell : Cell c h threads n (some t) slot) :
    ∃ place w, threads[t]? = some place ∧ place.owns? = some w
      ∧ c.slotOf w = n % c.capacity.toNat := by
  cases cell with
  | writing here fresh unwritten thread => exact ⟨_, _, thread, rfl, c.slotOf_position fits n⟩
  | publishing here wrote thread => exact ⟨_, _, thread, rfl, c.slotOf_position fits n⟩
  | reading lap tail here wrote takes fresh thread =>
      refine ⟨_, _, thread, rfl, ?_⟩
      rw [lap, Nat.add_mod_right, c.slotOf_position fits]
  | freeing lap tail thread =>
      refine ⟨_, _, thread, rfl, ?_⟩
      rw [lap, Nat.add_mod_right, c.slotOf_position fits]

/-- The stamp that a slot carries. -/
theorem Cell.stamp (cell : Cell c h threads n owner slot) :
    slot.stamp = c.position n ∨ (n < tailOf h ∧ slot.stamp = c.position n + 1)
      ∨ ∃ m, n = m + c.capacity.toNat ∧ tailOf h ≤ n ∧ slot.stamp = c.position m + 1 := by
  cases cell with
  | vacant | writing | publishing => exact .inl rfl
  | full here => exact .inr (.inl ⟨lt_tailOf here, rfl⟩)
  | reading lap tail => exact .inr (.inr ⟨_, lap, tail, rfl⟩)
  | freeing lap tail => exact .inr (.inr ⟨_, lap, tail, rfl⟩)

/-- What other threads do leaves a slot as it is. -/
theorem Cell.frame {t : Nat} (place : Place α) (cell : Cell c h threads n owner slot)
    (other : owner ≠ some t) (tail : tailOf h ≤ n → tailOf (h ++ new) ≤ n)
    (unwritten : c.position n ∉ written new)
    (unread : ∀ m, n = m + c.capacity.toNat → c.position m ∉ read new) :
    Cell c (h ++ new) (threads.set t place) n owner slot := by
  have stays {t' : Nat} {place' : Place α} (others : (some t' : Option Nat) ≠ some t)
      (thread : threads[t']? = some place') : (threads.set t place)[t']? = some place' := by
    rw [List.getElem?_set_ne]
    · exact thread
    · rintro rfl
      exact others rfl
  cases cell with
  | vacant free => exact .vacant (tail free)
  | writing here claims fresh thread =>
      refine .writing (claimed_append_of_some new here) (List.mem_append_left _ claims) ?_
        (stays other thread)
      rw [written_append, List.mem_append]
      exact not_or.2 ⟨fresh, unwritten⟩
  | publishing here wrote thread =>
      exact .publishing (claimed_append_of_some new here) (wrote.append new) (stays other thread)
  | full here wrote => exact .full (claimed_append_of_some new here) (wrote.append new)
  | reading lap free here wrote takes fresh thread =>
      refine .reading lap (tail free) (claimed_append_of_some new here) (wrote.append new)
        (List.mem_append_left _ takes) ?_ (stays other thread)
      rw [read_append, List.mem_append]
      exact not_or.2 ⟨fresh, unread _ lap⟩
  | freeing lap free thread => exact .freeing lap (tail free) (stays other thread)

end Cells

/-! ## What threads know -/

/-- What a thread knows of a word that it read. A word that was the tail or the head once may have
been passed since; if not, what the thread saw of the slot still holds. -/
def Place.Knows (c : Config) (head tail : Nat) (r : Ring α) : Place α → Prop
  | .pushStamp _ w => ∃ n ≤ tail, w = c.position n
  | .pushClaim _ w => ∃ n ≤ tail, w = c.position n
      ∧ (n = tail → n < head + c.capacity.toNat ∧ r.stampAt w = w)
  | .pushHead _ w => ∃ n ≤ tail, w = c.position n
      ∧ (tail + c.capacity.toNat ≤ c.capacity.toNat * c.lapLimit → c.capacity.toNat ≤ n)
  | .popStamp w | .popTail w => ∃ m ≤ head, w = c.position m
  | .popClaim w => ∃ m ≤ head, w = c.position m ∧ (m = head → r.stampAt w = w + 1)
  | .pushWrite _ w | .pushPublish w | .popRead w | .popFree w _ => ∃ n, w = c.position n
  | _ => True

/-- Head and tail only move on, and the slots at them do not change under a thread that has found
them ready. -/
theorem Place.Knows.mono {head head' tail tail' : Nat} {r r' : Ring α} {place : Place α}
    (knows : place.Knows c head tail r) (hhead : head ≤ head') (htail : tail ≤ tail')
    (free : tail' = tail → tail < head + c.capacity.toNat →
      r.stampAt (c.position tail) = c.position tail →
        r'.stampAt (c.position tail) = c.position tail)
    (ready : head' = head → r.stampAt (c.position head) = c.position head + 1 →
      r'.stampAt (c.position head) = c.position head + 1) :
    place.Knows c head' tail' r' := by
  cases place with
  | pushStamp a w =>
      obtain ⟨n, old, word⟩ := knows
      exact ⟨n, old.trans htail, word⟩
  | pushClaim a w =>
      obtain ⟨n, old, word, found⟩ := knows
      refine ⟨n, old.trans htail, word, ?_⟩
      rintro rfl
      have same := Nat.le_antisymm old htail
      obtain ⟨room, stamp⟩ := found same
      subst same
      subst word
      exact ⟨by omega, free rfl room stamp⟩
  | pushHead a w =>
      obtain ⟨n, old, word, later⟩ := knows
      exact ⟨n, old.trans htail, word, fun few => later (by omega)⟩
  | popStamp w | popTail w =>
      obtain ⟨m, old, word⟩ := knows
      exact ⟨m, old.trans hhead, word⟩
  | popClaim w =>
      obtain ⟨m, old, word, found⟩ := knows
      refine ⟨m, old.trans hhead, word, ?_⟩
      rintro rfl
      have same := Nat.le_antisymm old hhead
      subst same
      subst word
      exact ready rfl (found rfl)
  | pushWrite | pushPublish | popRead | popFree => exact knows
  | _ => exact trivial

/-! ## The invariant -/

/-- What holds behind a run with the deeds `h`. -/
structure Sound (c : Config) (h : Deeds α) (s : Shared α) : Prop where
  fits : c.Fits
  laps : tailOf h < c.capacity.toNat * c.lapLimit
  config_eq : s.ring.config = c
  tail_eq : s.ring.tail = c.position (tailOf h)
  head_eq : s.ring.head = c.position (headOf h)
  order : headOf h ≤ tailOf h
  room : tailOf h ≤ headOf h + c.capacity.toNat
  claims : ∀ n e, (claimed h)[n]? = some e → e.1 = c.position n
  takes : taken h = (List.range (headOf h)).map c.position
  writes : ∀ w ∈ written h, ∃ n < tailOf h, w = c.position n
  reads : ∀ w ∈ read h, ∃ m < headOf h, w = c.position m
  cells : ∀ n, headOf h ≤ n → n < headOf h + c.capacity.toNat →
    ∃ owner slot, s.ring.slots[n % c.capacity.toNat]? = some slot
      ∧ Cell c h s.threads n owner slot ∧ Alone c s.threads (n % c.capacity.toNat) owner
  knows : ∀ (t : Nat) (place : Place α), s.threads[t]? = some place →
    place.Knows c (headOf h) (tailOf h) s.ring

section Reading

variable {s : Shared α}

theorem Sound.stampAt (sound : Sound c h s) {n : Nat} {slot : Slot α}
    (here : s.ring.slots[n % c.capacity.toNat]? = some slot) :
    s.ring.stampAt (c.position n) = slot.stamp := by
  refine stampAt_of_slot sound.config_eq sound.fits ?_
  rw [c.slotOf_position sound.fits]
  exact here

/-- If the slot at the tail carries the tail, then nobody owns it and nothing is in it. -/
theorem Sound.tail_free (sound : Sound c h s) (room : tailOf h < headOf h + c.capacity.toNat)
    (stamp : s.ring.stampAt (c.position (tailOf h)) = c.position (tailOf h)) :
    s.ring.slots[tailOf h % c.capacity.toNat]? = some ⟨c.position (tailOf h), none⟩
      ∧ Alone c s.threads (tailOf h % c.capacity.toNat) none := by
  obtain ⟨owner, slot, here, cell, alone⟩ := sound.cells _ sound.order room
  rw [sound.stampAt here] at stamp
  cases cell with
  | vacant => exact ⟨here, alone⟩
  | writing claimed | publishing claimed | full claimed =>
      exact absurd (lt_tailOf claimed) (Nat.lt_irrefl _)
  | reading lap | freeing lap =>
      refine absurd stamp (c.stamp_ne_position sound.fits ?_)
      rw [lap, Nat.add_mod_right]

/-- If the slot at the tail carries the tail, then the ring is not full. -/
theorem Sound.room_of_stamp (sound : Sound c h s)
    (stamp : s.ring.stampAt (c.position (tailOf h)) = c.position (tailOf h)) :
    tailOf h < headOf h + c.capacity.toNat := by
  have hpos := c.capacity_toNat_pos
  refine Nat.lt_of_le_of_ne sound.room fun last => ?_
  -- The slot at the tail is the one at the head, and that one still has an older stamp.
  obtain ⟨owner, slot, here, cell, alone⟩ := sound.cells _ (Nat.le_refl _) (by omega)
  rw [last] at stamp
  rw [← Nat.add_mod_right] at here
  rw [sound.stampAt here] at stamp
  rcases cell.stamp with old | ⟨claimed, old⟩ | ⟨m, lap, free, old⟩
  · exact c.position_add_capacity_ne sound.fits _ (stamp.symm.trans old)
  · exact c.stamp_ne_position sound.fits (Nat.add_mod_right ..).symm (old.symm.trans stamp)
  · omega

/-- If the slot at the head carries the stamp behind the head, then a record is in it and nobody
owns it. -/
theorem Sound.head_ready (sound : Sound c h s)
    (stamp : s.ring.stampAt (c.position (headOf h)) = c.position (headOf h) + 1) :
    ∃ a, s.ring.slots[headOf h % c.capacity.toNat]? = some ⟨c.position (headOf h) + 1, some a⟩
      ∧ (claimed h)[headOf h]? = some (c.position (headOf h), a)
      ∧ Wrote h (c.position (headOf h)) a
      ∧ Alone c s.threads (headOf h % c.capacity.toNat) none := by
  have hpos := c.capacity_toNat_pos
  obtain ⟨owner, slot, here, cell, alone⟩ := sound.cells _ (Nat.le_refl _) (by omega)
  rw [sound.stampAt here] at stamp
  cases cell with
  | full claimed wrote => exact ⟨_, here, claimed, wrote, alone⟩
  | vacant | writing | publishing => exact absurd stamp.symm (c.stamp_ne_position sound.fits rfl)
  | reading lap | freeing lap =>
      have same := (UInt64.add_left_inj 1).1 stamp
      rw [lap] at same
      exact absurd same.symm (c.position_add_capacity_ne sound.fits _)

/-- A thread that finds the record of the lap before holds the word of a later lap than the first,
while no word has come up twice. -/
theorem Sound.later_of_stamp (sound : Sound c h s) {n : Nat} (old : n ≤ tailOf h)
    (stamp : s.ring.stampAt (c.position n) + c.oneLap = c.position n + 1)
    (few : tailOf h + c.capacity.toNat ≤ c.capacity.toNat * c.lapLimit) :
    c.capacity.toNat ≤ n := by
  have hpos := c.capacity_toNat_pos
  have laps := sound.laps
  have order := sound.order
  obtain ⟨k, first, last, slot⟩ := exists_in_window (headOf h) (Nat.mod_lt n hpos)
  obtain ⟨owner, cellSlot, here, cell, alone⟩ := sound.cells k first last
  rw [slot] at here
  rw [sound.stampAt here] at stamp
  have lapBehind {m : Nat} (full : cellSlot.stamp = c.position m + 1)
      (bound : m + c.capacity.toNat < c.capacity.toNat * c.lapLimit) :
      n = m + c.capacity.toNat := by
    rw [full, UInt64.add_assoc, UInt64.add_comm 1, ← UInt64.add_assoc, UInt64.add_left_inj,
      ← c.position_add_capacity] at stamp
    exact c.position_inj sound.fits (by omega) bound stamp.symm
  rcases cell.stamp with empty | ⟨claimed, full⟩ | ⟨m, lap, free, full⟩
  · rw [empty, ← c.position_add_capacity] at stamp
    refine absurd stamp.symm (c.stamp_ne_position sound.fits ?_)
    rw [Nat.add_mod_right, slot]
  · have := lapBehind full (by omega)
    omega
  · have := lapBehind full (by omega)
    omega

/-- The slot that a thread owns is in the window. -/
theorem Sound.owned (sound : Sound c h s) {t : Nat} {place : Place α} {w : UInt64}
    (thread : s.threads[t]? = some place) (owns : place.owns? = some w) :
    ∃ n slot, headOf h ≤ n ∧ n < headOf h + c.capacity.toNat
      ∧ c.slotOf w = n % c.capacity.toNat
      ∧ s.ring.slots[n % c.capacity.toNat]? = some slot ∧ Cell c h s.threads n (some t) slot
      ∧ Alone c s.threads (n % c.capacity.toNat) (some t) := by
  have word : ∃ k, w = c.position k := by
    have knows := sound.knows t place thread
    cases place <;> cases owns <;> exact knows
  obtain ⟨k, rfl⟩ := word
  obtain ⟨n, first, last, slot⟩ :=
    exists_in_window (headOf h) (Nat.mod_lt k c.capacity_toNat_pos)
  rw [← c.slotOf_position sound.fits k] at slot
  obtain ⟨owner, content, here, cell, alone⟩ := sound.cells n first last
  have mine := alone t place _ thread owns slot.symm
  subst mine
  exact ⟨n, content, first, last, slot.symm, here, cell, alone⟩

end Reading

/-! ## Steps touch one slot -/

/-- Thread `t` goes to `place` and the ring becomes `r`, with the deeds `new`: a step that touches
nothing but slot `i` and has only this slot in hand. -/
structure Touches (c : Config) (s : Shared α) (t : Nat) (place : Place α) (r : Ring α)
    (new : Deeds α) (i : Nat) : Prop where
  before : ∃ old, s.threads[t]? = some old ∧ ∀ w, old.owns? = some w → c.slotOf w = i
  behind : ∀ w, place.owns? = some w → c.slotOf w = i
  config_eq : r.config = c
  slots : ∀ j, j ≠ i → r.slots[j]? = s.ring.slots[j]?
  writes : ∀ w ∈ written new, c.slotOf w = i
  reads : ∀ w ∈ read new, c.slotOf w = i

section Touching

variable {s : Shared α} {t : Nat} {place : Place α} {r : Ring α} {i : Nat}

/-- The other slots stay as they are, so only the touched one has to be looked at. -/
theorem Touches.cells (touch : Touches c s t place r new i) (sound : Sound c h s)
    (others : i < c.capacity.toNat → Alone c s.threads i none ∨ Alone c s.threads i (some t))
    (window : ∀ n, headOf (h ++ new) ≤ n → n < headOf (h ++ new) + c.capacity.toNat →
      n % c.capacity.toNat ≠ i → headOf h ≤ n ∧ n < headOf h + c.capacity.toNat
        ∧ (tailOf h ≤ n → tailOf (h ++ new) ≤ n))
    (touched : ∀ n, headOf (h ++ new) ≤ n → n < headOf (h ++ new) + c.capacity.toNat →
      n % c.capacity.toNat = i → ∃ owner slot, r.slots[i]? = some slot
        ∧ Cell c (h ++ new) (s.threads.set t place) n owner slot
        ∧ ∀ w, place.owns? = some w → owner = some t) :
    ∀ n, headOf (h ++ new) ≤ n → n < headOf (h ++ new) + c.capacity.toNat →
      ∃ owner slot, r.slots[n % c.capacity.toNat]? = some slot
        ∧ Cell c (h ++ new) (s.threads.set t place) n owner slot
        ∧ Alone c (s.threads.set t place) (n % c.capacity.toNat) owner := by
  obtain ⟨old, thread, before⟩ := touch.before
  intro n first last
  by_cases this : n % c.capacity.toNat = i
  · subst this
    obtain ⟨owner, slot, here, cell, mine⟩ := touched n first last rfl
    refine ⟨owner, slot, here, cell, ?_⟩
    intro t' place' w thread' owns same
    by_cases moved : t = t'
    · subst moved
      rw [List.getElem?_set_self (List.getElem?_eq_some_iff.1 thread).1] at thread'
      cases thread'
      exact mine w owns
    · rw [List.getElem?_set_ne moved] at thread'
      rcases others (Nat.mod_lt _ c.capacity_toNat_pos) with nobody | alone
      · exact absurd (nobody t' place' w thread' owns same) (by simp)
      · exact absurd (Option.some.inj (alone t' place' w thread' owns same)) moved
  · obtain ⟨first', last', tail⟩ := window n first last this
    obtain ⟨owner, slot, here, cell, alone⟩ := sound.cells n first' last'
    refine ⟨owner, slot, ?_, ?_, ?_⟩
    · rw [touch.slots _ this]
      exact here
    · refine cell.frame place ?_ tail ?_ ?_
      · rintro rfl
        obtain ⟨old', w, thread', owns, slot⟩ := cell.owns sound.fits
        rw [thread] at thread'
        cases thread'
        exact this (slot.symm.trans (before w owns))
      · intro writes
        have slot := touch.writes _ writes
        rw [c.slotOf_position sound.fits] at slot
        exact this slot
      · intro m lap reads
        have slot := touch.reads _ reads
        rw [c.slotOf_position sound.fits] at slot
        rw [lap, Nat.add_mod_right] at this
        exact this slot
    · intro t' place' w thread' owns same
      by_cases moved : t = t'
      · subst moved
        rw [List.getElem?_set_self (List.getElem?_eq_some_iff.1 thread).1] at thread'
        cases thread'
        exact absurd (same.symm.trans (touch.behind w owns)) this
      · rw [List.getElem?_set_ne moved] at thread'
        exact alone t' place' w thread' owns same

/-- What the threads know stays true, unless the touched slot was found ready by some. -/
theorem Touches.knows (touch : Touches c s t place r new i) (sound : Sound c h s)
    (mine : place.Knows c (headOf (h ++ new)) (tailOf (h ++ new)) r)
    (free : tailOf new = 0 → tailOf h % c.capacity.toNat = i →
      ¬Alone c s.threads i none ∨ r.slots[i]? = s.ring.slots[i]?)
    (ready : headOf new = 0 → headOf h % c.capacity.toNat = i →
      ¬Alone c s.threads i none ∨ r.slots[i]? = s.ring.slots[i]?) :
    ∀ (t' : Nat) (place' : Place α), (s.threads.set t place)[t']? = some place' →
      place'.Knows c (headOf (h ++ new)) (tailOf (h ++ new)) r := by
  have same {n : Nat}
      (slot : r.slots[n % c.capacity.toNat]? = s.ring.slots[n % c.capacity.toNat]?) :
      r.stampAt (c.position n) = s.ring.stampAt (c.position n) := by
    refine stampAt_congr sound.config_eq touch.config_eq sound.fits ?_
    rw [c.slotOf_position sound.fits]
    exact slot
  obtain ⟨old, thread, -⟩ := touch.before
  intro t' place' thread'
  by_cases moved : t = t'
  · subst moved
    rw [List.getElem?_set_self (List.getElem?_eq_some_iff.1 thread).1] at thread'
    cases thread'
    exact mine
  · rw [List.getElem?_set_ne moved] at thread'
    refine (sound.knows t' place' thread').mono ?_ ?_ ?_ ?_
    · rw [headOf_append]
      exact Nat.le_add_right ..
    · rw [tailOf_append]
      exact Nat.le_add_right ..
    · intro unmoved room stamp
      rw [same]
      · exact stamp
      by_cases this : tailOf h % c.capacity.toNat = i
      · rw [this]
        rw [tailOf_append, Nat.add_eq_left] at unmoved
        refine (free unmoved this).resolve_left (not_not.2 ?_)
        rw [← this]
        exact (sound.tail_free room stamp).2
      · exact touch.slots _ this
    · intro unmoved stamp
      rw [same]
      · exact stamp
      by_cases this : headOf h % c.capacity.toNat = i
      · rw [this]
        rw [headOf_append, Nat.add_eq_left] at unmoved
        refine (ready unmoved this).resolve_left (not_not.2 ?_)
        rw [← this]
        obtain ⟨a, -, -, -, alone⟩ := sound.head_ready stamp
        exact alone
      · exact touch.slots _ this

/-- A step that moves neither tail nor head. -/
theorem Sound.keeps (sound : Sound c h s) (touch : Touches c s t place r new i)
    (tail : r.tail = s.ring.tail) (head : r.head = s.ring.head) (noClaim : claimed new = [])
    (noTake : taken new = []) (writes : ∀ w ∈ written new, ∃ n < tailOf h, w = c.position n)
    (reads : ∀ w ∈ read new, ∃ m < headOf h, w = c.position m)
    (mine : place.Knows c (headOf h) (tailOf h) r)
    (owned : (¬Alone c s.threads i none ∧ Alone c s.threads i (some t))
      ∨ (r.slots = s.ring.slots ∧ c.capacity.toNat ≤ i))
    (touched : ∀ n, headOf h ≤ n → n < headOf h + c.capacity.toNat →
      n % c.capacity.toNat = i → ∃ owner slot, r.slots[i]? = some slot
        ∧ Cell c (h ++ new) (s.threads.set t place) n owner slot
        ∧ ∀ w, place.owns? = some w → owner = some t) :
    Sound c (h ++ new) ⟨r, s.threads.set t place⟩ := by
  have sameClaims : claimed (h ++ new) = claimed h := claimed_append_of_nil noClaim
  have sameTakes : taken (h ++ new) = taken h := taken_append_of_nil noTake
  have sameTail : tailOf (h ++ new) = tailOf h := congrArg List.length sameClaims
  have sameHead : headOf (h ++ new) = headOf h := congrArg List.length sameTakes
  have kept : ¬Alone c s.threads i none ∨ r.slots[i]? = s.ring.slots[i]? :=
    owned.imp (·.1) (fun same => by rw [same.1])
  constructor
  case fits => exact sound.fits
  case laps =>
    rw [sameTail]
    exact sound.laps
  case config_eq => exact touch.config_eq
  case tail_eq =>
    rw [sameTail]
    exact tail.trans sound.tail_eq
  case head_eq =>
    rw [sameHead]
    exact head.trans sound.head_eq
  case order =>
    rw [sameHead, sameTail]
    exact sound.order
  case room =>
    rw [sameHead, sameTail]
    exact sound.room
  case claims =>
    rw [sameClaims]
    exact sound.claims
  case takes =>
    rw [sameTakes, sameHead]
    exact sound.takes
  case writes =>
    intro w there
    rw [written_append, List.mem_append] at there
    rw [sameTail]
    exact there.elim (sound.writes w) (writes w)
  case reads =>
    intro w there
    rw [read_append, List.mem_append] at there
    rw [sameHead]
    exact there.elim (sound.reads w) (reads w)
  case cells =>
    refine touch.cells sound ?_ ?_ ?_
    · intro inside
      exact owned.elim (fun alone => .inr alone.2) (fun none => absurd inside (by omega))
    · rw [sameHead, sameTail]
      exact fun n first last _ => ⟨first, last, id⟩
    · rw [sameHead]
      exact touched
  case knows =>
    refine touch.knows sound ?_ (fun _ _ => kept) (fun _ _ => kept)
    rw [sameHead, sameTail]
    exact mine

/-- A step of a thread that owns nothing before and behind it, and only reads. -/
theorem Sound.looks {old : Place α} (sound : Sound c h s) (thread : s.threads[t]? = some old)
    (before : old.owns? = none) (behind : place.owns? = none)
    (mine : place.Knows c (headOf h) (tailOf h) s.ring) :
    Sound c (h ++ []) ⟨s.ring, s.threads.set t place⟩ := by
  have touch : Touches c s t place s.ring [] c.capacity.toNat := by
    refine ⟨⟨old, thread, ?_⟩, ?_, sound.config_eq, fun _ _ => rfl, ?_, ?_⟩
    · intro w owns
      rw [before] at owns
      cases owns
    · intro w owns
      rw [behind] at owns
      cases owns
    · rintro w ⟨⟩
    · rintro w ⟨⟩
  refine sound.keeps touch rfl rfl rfl rfl (by rintro w ⟨⟩) (by rintro w ⟨⟩) mine
    (.inr ⟨rfl, Nat.le_refl _⟩) ?_
  intro n first last outside
  exact absurd outside (Nat.mod_lt n c.capacity_toNat_pos).ne

end Touching

end Telemetry.Ring
