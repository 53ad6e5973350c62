import Telemetry.Proofs.Ring.Ownership

set_option autoImplicit false

/-! # Every step keeps the slots in order

One lemma for each kind of step: the owner of a slot writes, publishes, reads or frees it, and a
thread moves the tail or the head and becomes the owner of the slot there. -/

namespace Telemetry.Ring

variable {α : Type} {c : Config} {h new : Deeds α}

/-! ## Threads that own a slot -/

section Owners

variable {s : Shared α} {t : Nat} {w : UInt64}

/-- A slot with an owner is not without one. -/
theorem Alone.busy {i : Nat} {place : Place α} (thread : s.threads[t]? = some place)
    (owns : place.owns? = some w) (slot : c.slotOf w = i) : ¬Alone c s.threads i none := by
  intro alone
  cases alone t place w thread owns slot

theorem Sound.writing {a : α} (sound : Sound c h s)
    (thread : s.threads[t]? = some (.pushWrite a w)) :
    ∃ n, headOf h ≤ n ∧ n < headOf h + c.capacity.toNat ∧ w = c.position n
      ∧ s.ring.slots[n % c.capacity.toNat]? = some ⟨w, none⟩ ∧ (claimed h)[n]? = some (w, a)
      ∧ (t, .claims w a) ∈ h ∧ w ∉ written h
      ∧ Alone c s.threads (n % c.capacity.toNat) (some t) := by
  obtain ⟨n, slot, first, last, -, here, cell, alone⟩ := sound.owned thread rfl
  cases cell with
  | writing claimed claims fresh mine =>
      rw [thread] at mine
      cases mine
      exact ⟨n, first, last, rfl, here, claimed, claims, fresh, alone⟩
  | publishing _ _ mine | reading _ _ _ _ _ _ mine | freeing _ _ mine =>
      rw [thread] at mine
      cases mine

theorem Sound.publishing (sound : Sound c h s) (thread : s.threads[t]? = some (.pushPublish w)) :
    ∃ n a, headOf h ≤ n ∧ n < headOf h + c.capacity.toNat ∧ w = c.position n
      ∧ s.ring.slots[n % c.capacity.toNat]? = some ⟨w, some a⟩ ∧ (claimed h)[n]? = some (w, a)
      ∧ Wrote h w a ∧ Alone c s.threads (n % c.capacity.toNat) (some t) := by
  obtain ⟨n, slot, first, last, -, here, cell, alone⟩ := sound.owned thread rfl
  cases cell with
  | publishing claimed wrote mine =>
      rw [thread] at mine
      cases mine
      exact ⟨n, _, first, last, rfl, here, claimed, wrote, alone⟩
  | writing _ _ _ mine | reading _ _ _ _ _ _ mine | freeing _ _ mine =>
      rw [thread] at mine
      cases mine

theorem Sound.reading (sound : Sound c h s) (thread : s.threads[t]? = some (.popRead w)) :
    ∃ m a, headOf h ≤ m + c.capacity.toNat ∧ m < headOf h ∧ tailOf h ≤ m + c.capacity.toNat
      ∧ w = c.position m ∧ s.ring.slots[m % c.capacity.toNat]? = some ⟨w + 1, some a⟩
      ∧ (claimed h)[m]? = some (w, a) ∧ Wrote h w a ∧ (t, .takes w) ∈ h ∧ w ∉ read h
      ∧ Alone c s.threads (m % c.capacity.toNat) (some t) := by
  obtain ⟨n, slot, first, last, -, here, cell, alone⟩ := sound.owned thread rfl
  cases cell with
  | reading lap tail claimed wrote takes fresh mine =>
      rw [thread] at mine
      cases mine
      subst lap
      rw [Nat.add_mod_right] at here alone
      exact ⟨_, _, first, Nat.lt_of_add_lt_add_right last, tail, rfl, here, claimed, wrote, takes,
        fresh, alone⟩
  | writing _ _ _ mine | publishing _ _ mine | freeing _ _ mine =>
      rw [thread] at mine
      cases mine

theorem Sound.freeing {a : Option α} (sound : Sound c h s)
    (thread : s.threads[t]? = some (.popFree w a)) :
    ∃ m, headOf h ≤ m + c.capacity.toNat ∧ m < headOf h ∧ tailOf h ≤ m + c.capacity.toNat
      ∧ w = c.position m ∧ s.ring.slots[m % c.capacity.toNat]? = some ⟨w + 1, none⟩
      ∧ Alone c s.threads (m % c.capacity.toNat) (some t) := by
  obtain ⟨n, slot, first, last, -, here, cell, alone⟩ := sound.owned thread rfl
  cases cell with
  | freeing lap tail mine =>
      rw [thread] at mine
      cases mine
      subst lap
      rw [Nat.add_mod_right] at here alone
      exact ⟨_, first, Nat.lt_of_add_lt_add_right last, tail, rfl, here, alone⟩
  | writing _ _ _ mine | publishing _ _ mine | reading _ _ _ _ _ _ mine =>
      rw [thread] at mine
      cases mine

/-- The owner of a slot changes what is in it. -/
theorem Sound.rewrites {old place : Place α} {r : Ring α} {n : Nat} {slot : Slot α}
    (sound : Sound c h s) (f : Slot α → Slot α) (thread : s.threads[t]? = some old)
    (owns : old.owns? = some w) (same : c.slotOf w = n % c.capacity.toNat)
    (first : headOf h ≤ n) (last : n < headOf h + c.capacity.toNat)
    (alone : Alone c s.threads (n % c.capacity.toNat) (some t))
    (here : s.ring.slots[n % c.capacity.toNat]? = some slot)
    (config_eq : r.config = c) (tail : r.tail = s.ring.tail) (head : r.head = s.ring.head)
    (slots : ∀ j, r.slots[j]?
      = if c.slotOf w = j then s.ring.slots[j]?.map f else s.ring.slots[j]?)
    (behind : ∀ w', place.owns? = some w' → w' = w)
    (noClaim : claimed new = []) (noTake : taken new = [])
    (writes : ∀ w' ∈ written new, w' = w ∧ ∃ k < tailOf h, w = c.position k)
    (reads : ∀ w' ∈ read new, w' = w ∧ ∃ k < headOf h, w = c.position k)
    (mine : place.Knows c (headOf h) (tailOf h) r)
    (cell : ∃ owner, Cell c (h ++ new) (s.threads.set t place) n owner (f slot)
      ∧ ∀ w', place.owns? = some w' → owner = some t) :
    Sound c (h ++ new) ⟨r, s.threads.set t place⟩ := by
  have touch : Touches c s t place r new (n % c.capacity.toNat) := by
    refine ⟨⟨old, thread, ?_⟩, ?_, config_eq, ?_, ?_, ?_⟩
    · intro w' owned
      rw [owns] at owned
      cases owned
      exact same
    · intro w' owned
      rw [behind w' owned]
      exact same
    · intro j other
      rw [slots, if_neg (by rw [same]; exact other.symm)]
    · intro w' there
      rw [(writes w' there).1]
      exact same
    · intro w' there
      rw [(reads w' there).1]
      exact same
  have busy := Alone.busy thread owns same
  refine sound.keeps touch tail head noClaim noTake ?_ ?_ mine (.inl ⟨busy, alone⟩) ?_
  · intro w' there
    rw [(writes w' there).1]
    exact (writes w' there).2
  · intro w' there
    rw [(reads w' there).1]
    exact (reads w' there).2
  · intro k first' last' slot'
    rw [window_inj first' last' first last slot']
    obtain ⟨owner, cell, owned⟩ := cell
    refine ⟨owner, f slot, ?_, cell, owned⟩
    rw [slots, if_pos same, here]
    rfl

theorem Sound.afterWrite {a : α} (sound : Sound c h s)
    (thread : s.threads[t]? = some (.pushWrite a w)) :
    Sound c (h ++ [(t, .writes w a)])
      ⟨s.ring.setValue w (some a), s.threads.set t (.pushPublish w)⟩ := by
  obtain ⟨n, first, last, rfl, here, claimed, claims, fresh, alone⟩ := sound.writing thread
  refine sound.rewrites (fun slot => { slot with value := some a }) thread rfl
    (c.slotOf_position sound.fits n) first last alone here sound.config_eq rfl rfl
    (slots_setValue sound.config_eq sound.fits _ _) ?_ rfl rfl ?_ (by rintro w ⟨⟩) ⟨n, rfl⟩ ?_
  · rintro w ⟨⟩
    rfl
  · intro w there
    exact ⟨List.mem_singleton.1 there, n, lt_tailOf claimed, rfl⟩
  · refine ⟨some t, .publishing (claimed_append_of_some _ claimed) ?_ ?_, fun _ _ => rfl⟩
    · exact ⟨t, List.mem_append_left _ claims, List.mem_append_right _ (List.mem_singleton.2 rfl)⟩
    · exact List.getElem?_set_self (List.getElem?_eq_some_iff.1 thread).1

theorem Sound.afterPublish (sound : Sound c h s) (thread : s.threads[t]? = some (.pushPublish w)) :
    Sound c (h ++ []) ⟨s.ring.setStamp w (w + 1), s.threads.set t .stored⟩ := by
  obtain ⟨n, a, first, last, rfl, here, claimed, wrote, alone⟩ := sound.publishing thread
  refine sound.rewrites (fun slot => { slot with stamp := c.position n + 1 }) thread rfl
    (c.slotOf_position sound.fits n) first last alone here sound.config_eq rfl rfl
    (slots_setStamp sound.config_eq sound.fits _ _) (by rintro w ⟨⟩) rfl rfl (by rintro w ⟨⟩)
    (by rintro w ⟨⟩) trivial ?_
  exact ⟨none, .full (claimed_append_of_some _ claimed) (wrote.append _), by rintro w ⟨⟩⟩

theorem Sound.afterRead (sound : Sound c h s) (thread : s.threads[t]? = some (.popRead w)) :
    Sound c (h ++ [(t, .reads w (s.ring.valueAt w))])
      ⟨s.ring.setValue w none, s.threads.set t (.popFree w (s.ring.valueAt w))⟩ := by
  obtain ⟨m, a, first, last, tail, rfl, here, claimed, wrote, takes, fresh, alone⟩ :=
    sound.reading thread
  rw [← Nat.add_mod_right] at here alone
  have slot := (c.slotOf_position sound.fits m).trans (Nat.add_mod_right m _).symm
  refine sound.rewrites (fun slot => { slot with value := none }) thread rfl slot first
    (Nat.add_lt_add_right last _) alone here sound.config_eq rfl rfl
    (slots_setValue sound.config_eq sound.fits _ _) ?_ rfl rfl (by rintro w ⟨⟩) ?_ ⟨m, rfl⟩ ?_
  · rintro w ⟨⟩
    rfl
  · intro w there
    exact ⟨List.mem_singleton.1 there, m, last, rfl⟩
  · refine ⟨some t, .freeing (a := s.ring.valueAt (c.position m)) rfl ?_ ?_, fun _ _ => rfl⟩
    · rw [tailOf_append]
      exact tail
    · exact List.getElem?_set_self (List.getElem?_eq_some_iff.1 thread).1

theorem Sound.afterFree {a : Option α} (sound : Sound c h s)
    (thread : s.threads[t]? = some (.popFree w a)) :
    Sound c (h ++ []) ⟨s.ring.setStamp w (w + c.oneLap), s.threads.set t (.taken a)⟩ := by
  obtain ⟨m, first, last, tail, rfl, here, alone⟩ := sound.freeing thread
  rw [← Nat.add_mod_right] at here alone
  have slot := (c.slotOf_position sound.fits m).trans (Nat.add_mod_right m _).symm
  refine sound.rewrites (fun slot => { slot with stamp := c.position m + c.oneLap }) thread rfl slot
    first (Nat.add_lt_add_right last _) alone here sound.config_eq rfl rfl
    (slots_setStamp sound.config_eq sound.fits _ _) (by rintro w ⟨⟩) rfl rfl (by rintro w ⟨⟩)
    (by rintro w ⟨⟩) trivial ?_
  refine ⟨none, ?_, by rintro w ⟨⟩⟩
  rw [← c.position_add_capacity]
  refine .vacant ?_
  rw [List.append_nil]
  exact tail

end Owners

/-! ## Moving the tail and the head -/

section Claims

variable {s : Shared α} {t : Nat}

theorem Sound.next (sound : Sound c h s) (n : Nat) :
    s.ring.next (c.position n) = c.position (n + 1) := by
  have fits : s.ring.config.Fits := sound.config_eq ▸ sound.fits
  rw [← sound.config_eq, next_position s.ring fits]

/-- The word at the tail is new: the positions written are all before it. -/
theorem Sound.unwritten (sound : Sound c h s) : c.position (tailOf h) ∉ written h := by
  intro there
  obtain ⟨n, before, again⟩ := sound.writes _ there
  exact before.ne (c.position_inj sound.fits sound.laps (before.trans sound.laps) again).symm

/-- The word at the head is new: the positions read are all before it. -/
theorem Sound.unread (sound : Sound c h s) : c.position (headOf h) ∉ read h := by
  have laps := sound.order.trans_lt sound.laps
  intro there
  obtain ⟨n, before, again⟩ := sound.reads _ there
  exact before.ne (c.position_inj sound.fits laps (before.trans laps) again).symm

/-- A thread that moves the tail finds it where it was and the slot there free. -/
theorem Sound.claiming {a : α} (sound : Sound c h s)
    (thread : s.threads[t]? = some (.pushClaim a s.ring.tail)) :
    tailOf h < headOf h + c.capacity.toNat
      ∧ s.ring.slots[tailOf h % c.capacity.toNat]? = some ⟨c.position (tailOf h), none⟩
      ∧ Alone c s.threads (tailOf h % c.capacity.toNat) none := by
  obtain ⟨n, old, word, found⟩ := sound.knows t _ thread
  have same : tailOf h = n :=
    c.position_inj sound.fits sound.laps (old.trans_lt sound.laps) (sound.tail_eq.symm.trans word)
  obtain ⟨room, stamp⟩ := found same.symm
  rw [sound.tail_eq] at stamp
  rw [← same] at room
  exact ⟨room, sound.tail_free room stamp⟩

/-- A thread that moves the head finds it where it was and a record in the slot there. -/
theorem Sound.taking (sound : Sound c h s) (thread : s.threads[t]? = some (.popClaim s.ring.head)) :
    ∃ a, s.ring.slots[headOf h % c.capacity.toNat]? = some ⟨c.position (headOf h) + 1, some a⟩
      ∧ (claimed h)[headOf h]? = some (c.position (headOf h), a)
      ∧ Wrote h (c.position (headOf h)) a
      ∧ Alone c s.threads (headOf h % c.capacity.toNat) none := by
  have headLaps := sound.order.trans_lt sound.laps
  obtain ⟨m, old, word, found⟩ := sound.knows t _ thread
  have same : headOf h = m :=
    c.position_inj sound.fits headLaps (old.trans_lt headLaps) (sound.head_eq.symm.trans word)
  have stamp := found same.symm
  rw [sound.head_eq] at stamp
  exact sound.head_ready stamp

theorem Sound.afterClaim {a : α} (sound : Sound c h s)
    (thread : s.threads[t]? = some (.pushClaim a s.ring.tail))
    (laps : tailOf h + 1 < c.capacity.toNat * c.lapLimit) :
    Sound c (h ++ [(t, .claims s.ring.tail a)])
      ⟨{ s.ring with tail := s.ring.next s.ring.tail },
        s.threads.set t (.pushWrite a s.ring.tail)⟩ := by
  obtain ⟨room, here, alone⟩ := sound.claiming thread
  rw [sound.tail_eq, sound.next]
  rw [sound.tail_eq] at thread
  have slot := c.slotOf_position sound.fits (tailOf h)
  obtain ⟨new, deed⟩ : ∃ new, new = [(t, Deed.claims (c.position (tailOf h)) a)] := ⟨_, rfl⟩
  rw [← deed]
  have sameTaken : taken (h ++ new) = taken h := taken_append_of_nil (by rw [deed]; rfl)
  have sameWritten : written (h ++ new) = written h := written_append_of_nil (by rw [deed]; rfl)
  have sameRead : read (h ++ new) = read h := read_append_of_nil (by rw [deed]; rfl)
  have sameHead : headOf (h ++ new) = headOf h := congrArg List.length sameTaken
  have nextTail : tailOf (h ++ new) = tailOf h + 1 := by
    rw [tailOf_append, deed]
    rfl
  have last : (claimed (h ++ new))[tailOf h]? = some (c.position (tailOf h), a) := by
    rw [claimed_append, deed]
    exact List.getElem?_concat_length
  have touch : Touches c s t (.pushWrite a (c.position (tailOf h)))
      { s.ring with tail := c.position (tailOf h + 1) } new (tailOf h % c.capacity.toNat) := by
    subst deed
    refine ⟨⟨_, thread, by rintro w ⟨⟩⟩, ?_, sound.config_eq, fun _ _ => rfl, by rintro w ⟨⟩,
      by rintro w ⟨⟩⟩
    rintro w ⟨⟩
    exact slot
  constructor
  case fits => exact sound.fits
  case laps =>
    rw [nextTail]
    exact laps
  case config_eq => exact sound.config_eq
  case tail_eq => rw [nextTail]
  case head_eq =>
    rw [sameHead]
    exact sound.head_eq
  case order =>
    rw [sameHead, nextTail]
    exact sound.order.trans (Nat.le_succ _)
  case room =>
    rw [sameHead, nextTail]
    exact room
  case claims =>
    intro n e there
    have bound := lt_tailOf there
    rw [nextTail, Nat.lt_succ_iff_lt_or_eq] at bound
    rcases bound with before | rfl
    · rw [claimed_append, List.getElem?_append_left before] at there
      exact sound.claims n e there
    · rw [last] at there
      cases there
      rfl
  case takes =>
    rw [sameTaken, sameHead]
    exact sound.takes
  case writes =>
    rw [sameWritten, nextTail]
    intro w there
    obtain ⟨n, before, word⟩ := sound.writes w there
    exact ⟨n, Nat.lt_succ_of_lt before, word⟩
  case reads =>
    rw [sameRead, sameHead]
    exact sound.reads
  case cells =>
    refine touch.cells sound (fun _ => .inl alone) ?_ ?_
    · rw [sameHead, nextTail]
      intro n first' last' other
      refine ⟨first', last', fun free => Nat.lt_of_le_of_ne free ?_⟩
      rintro rfl
      exact other rfl
    · rw [sameHead]
      intro n first' last' same
      rw [window_inj first' last' sound.order room same]
      refine ⟨some t, _, here, .writing last ?_ ?_ ?_, fun _ _ => rfl⟩
      · rw [deed]
        exact List.mem_append_right _ (List.mem_singleton.2 rfl)
      · rw [sameWritten]
        exact sound.unwritten
      · exact List.getElem?_set_self (List.getElem?_eq_some_iff.1 thread).1
  case knows =>
    refine touch.knows sound ⟨_, rfl⟩ ?_ (fun _ _ => .inr rfl)
    rw [deed]
    rintro ⟨⟩

theorem Sound.afterTake (sound : Sound c h s)
    (thread : s.threads[t]? = some (.popClaim s.ring.head)) :
    Sound c (h ++ [(t, .takes s.ring.head)])
      ⟨{ s.ring with head := s.ring.next s.ring.head },
        s.threads.set t (.popRead s.ring.head)⟩ := by
  obtain ⟨a, here, first, wrote, alone⟩ := sound.taking thread
  rw [sound.head_eq, sound.next]
  rw [sound.head_eq] at thread
  have slot := c.slotOf_position sound.fits (headOf h)
  obtain ⟨new, deed⟩ : ∃ new : Deeds α, new = [(t, Deed.takes (c.position (headOf h)))] :=
    ⟨_, rfl⟩
  rw [← deed]
  have sameClaimed : claimed (h ++ new) = claimed h := claimed_append_of_nil (by rw [deed]; rfl)
  have sameWritten : written (h ++ new) = written h := written_append_of_nil (by rw [deed]; rfl)
  have sameRead : read (h ++ new) = read h := read_append_of_nil (by rw [deed]; rfl)
  have sameTail : tailOf (h ++ new) = tailOf h := congrArg List.length sameClaimed
  have nextHead : headOf (h ++ new) = headOf h + 1 := by
    rw [headOf_append, deed]
    rfl
  have touch : Touches c s t (.popRead (c.position (headOf h)))
      { s.ring with head := c.position (headOf h + 1) } new (headOf h % c.capacity.toNat) := by
    subst deed
    refine ⟨⟨_, thread, by rintro w ⟨⟩⟩, ?_, sound.config_eq, fun _ _ => rfl, by rintro w ⟨⟩,
      by rintro w ⟨⟩⟩
    rintro w ⟨⟩
    exact slot
  constructor
  case fits => exact sound.fits
  case laps =>
    rw [sameTail]
    exact sound.laps
  case config_eq => exact sound.config_eq
  case tail_eq =>
    rw [sameTail]
    exact sound.tail_eq
  case head_eq => rw [nextHead]
  case order =>
    rw [nextHead, sameTail]
    exact lt_tailOf first
  case room =>
    rw [nextHead, sameTail]
    have := sound.room
    omega
  case claims =>
    rw [sameClaimed]
    exact sound.claims
  case takes =>
    rw [nextHead, List.range_succ, List.map_append, ← sound.takes, taken_append, deed]
    rfl
  case writes =>
    rw [sameWritten, sameTail]
    exact sound.writes
  case reads =>
    rw [sameRead, nextHead]
    intro w there
    obtain ⟨m, before, word⟩ := sound.reads w there
    exact ⟨m, Nat.lt_succ_of_lt before, word⟩
  case cells =>
    refine touch.cells sound (fun _ => .inl alone) ?_ ?_
    · rw [nextHead, sameTail]
      intro n first' last' other
      refine ⟨by omega, ?_, id⟩
      -- the window loses the position at the head, and the new one is in its slot
      refine Nat.lt_of_le_of_ne (by omega) ?_
      rintro rfl
      exact other (Nat.add_mod_right ..)
    · rw [nextHead]
      intro n first' last' same
      rw [← Nat.add_mod_right (headOf h)] at same
      rw [window_inj first' last' (by omega) (by omega) same]
      refine ⟨some t, _, here, .reading rfl ?_ (claimed_append_of_some _ first) (wrote.append _) ?_
        ?_ ?_, fun _ _ => rfl⟩
      · rw [sameTail]
        exact sound.room
      · rw [deed]
        exact List.mem_append_right _ (List.mem_singleton.2 rfl)
      · rw [sameRead]
        exact sound.unread
      · exact List.getElem?_set_self (List.getElem?_eq_some_iff.1 thread).1
  case knows =>
    refine touch.knows sound ⟨_, rfl⟩ (fun _ _ => .inr rfl) ?_
    rw [deed]
    rintro ⟨⟩

end Claims

/-! ## Runs -/

section Runs

variable {s s' : Shared α}

/-- The first place of an operation knows nothing and owns nothing. -/
theorem Task.place_knows (task : Task α) (head tail : Nat) (r : Ring α) :
    task.place.Knows c head tail r := by
  cases task <;> exact trivial

theorem Task.place_owns (task : Task α) : task.place.owns? = none := by
  cases task <;> rfl

theorem Place.owns_of_isDone {place : Place α} (done : place.isDone = true) :
    place.owns? = none := by
  cases place <;> first | rfl | cases done

theorem Place.owns_of_observes {place : Place α} (observes : place.observes = true) :
    place.owns? = none := by
  cases place <;> first | rfl | cases observes

theorem Place.knows_of_observes {place : Place α} (observes : place.observes = true)
    (head tail : Nat) (r : Ring α) : place.Knows c head tail r := by
  cases place <;> first | exact trivial | cases observes

/-- One step of any thread, as long as the laps can be told apart. -/
theorem Sound.moves (sound : Sound c h s) (moves : s.Moves s' new)
    (laps : tailOf (h ++ new) < c.capacity.toNat * c.lapLimit) : Sound c (h ++ new) s' := by
  cases moves with
  | begins task here done =>
      exact sound.looks here (Place.owns_of_isDone done) task.place_owns (task.place_knows ..)
  | @thread t place place' r deed here moves =>
      have knows := sound.knows t place here
      cases moves with
      | readsTail | claimsNothing =>
          exact sound.looks here rfl rfl ⟨_, Nat.le_refl _, sound.tail_eq⟩
      | readsHead | takesNothing =>
          exact sound.looks here rfl rfl ⟨_, Nat.le_refl _, sound.head_eq⟩
      | findsRoom stamp =>
          obtain ⟨n, old, rfl⟩ := knows
          refine sound.looks here rfl rfl ⟨n, old, rfl, ?_⟩
          rintro rfl
          exact ⟨sound.room_of_stamp stamp, stamp⟩
      | findsOlder stamp =>
          obtain ⟨n, old, rfl⟩ := knows
          rw [sound.config_eq] at stamp
          exact sound.looks here rfl rfl ⟨n, old, rfl, sound.later_of_stamp old stamp⟩
      | findsRecord stamp =>
          obtain ⟨m, old, rfl⟩ := knows
          exact sound.looks here rfl rfl ⟨m, old, rfl, fun _ => stamp⟩
      | findsFree => exact sound.looks here rfl rfl knows
      | findsTransit | refuses | storesAgain | findsTransitTaking | findsNothing | takesAgain =>
          exact sound.looks here rfl rfl trivial
      | observes before behind =>
          exact sound.looks here (Place.owns_of_observes before) (Place.owns_of_observes behind)
            (Place.knows_of_observes behind ..)
      | rests done =>
          exact sound.looks here (Place.owns_of_isDone done) (Place.owns_of_isDone done) knows
      | claims =>
          refine sound.afterClaim here ?_
          rw [tailOf_append] at laps
          exact laps
      | writes => exact sound.afterWrite here
      | publishes => exact sound.afterPublish here
      | takes => exact sound.afterTake here
      | reads => exact sound.afterRead here
      | frees =>
          rw [sound.config_eq]
          exact sound.afterFree here

theorem Sound.start (fits : c.Fits) (threads : Nat) :
    Sound c [] (Shared.start c threads : Shared α) where
  fits := fits
  laps := by
    refine Nat.mul_pos c.capacity_toNat_pos (Nat.div_pos ?_ ?_)
    · exact c.oneLap.toNat_lt.le
    · obtain ⟨k, -, -, lap, -⟩ := fits.oneLap_eq
      rw [lap]
      exact Nat.two_pow_pos k
  config_eq := rfl
  tail_eq := c.position_zero.symm
  head_eq := c.position_zero.symm
  order := Nat.le_refl _
  room := Nat.zero_le _
  claims := by
    intro n e there
    cases there
  takes := rfl
  writes := by rintro w ⟨⟩
  reads := by rintro w ⟨⟩
  cells := by
    intro n first last
    have inside : n < c.capacity.toNat := last.trans_eq (Nat.zero_add _)
    have slot := (holds_new (α := α) c fits).slot n inside
    rw [Nat.zero_add] at slot
    refine ⟨none, _, slot, .vacant (Nat.zero_le n), ?_⟩
    intro t place w thread owns
    rw [List.eq_of_mem_replicate (List.mem_of_getElem? thread)] at owns
    cases owns
  knows := by
    intro t place thread
    rw [List.eq_of_mem_replicate (List.mem_of_getElem? thread)]
    exact trivial

/-- Positions are only ever added to what was claimed. -/
theorem tailOf_le_of_append {h new : Deeds α} : tailOf h ≤ tailOf (h ++ new) := by
  rw [tailOf_append]
  exact Nat.le_add_right ..

theorem Shared.Run.sound {threads : Nat} {turns : List (Turn α)} (fits : c.Fits)
    (run : Run (Shared.start c threads) turns h s)
    (laps : tailOf h < c.capacity.toNat * c.lapLimit) : Sound c h s := by
  induction run with
  | nil => exact Sound.start fits threads
  | snoc run turn ih =>
      have sound := ih (tailOf_le_of_append.trans_lt laps)
      exact sound.moves (Shared.moves_of_turn turn) laps

end Runs

end Telemetry.Ring
