import Mathlib.Logic.Function.Iterate
import Telemetry.Proofs.Ring.Callbacks
import Telemetry.Proofs.Ring.Shared

set_option autoImplicit false

/-! # Arithmetic on the words of a ring

Some sums of the operations are meant to wrap around, and some must not. Every word that a ring or a
thread on it has is that of a position, however many positions there were before it, so the lap of a
word may be any, but its low bits name a slot and leave room for one more. From that everything
follows: the sums that must not wrap around do not, the tests of a stamp exclude each other, and the
words go through the slots in order and come back one lap further on. -/

namespace Telemetry.Ring

variable {α : Type}

/-! ## One word -/

/-- The step to the stamp of a full slot does not wrap around. -/
theorem Config.toNat_position_add_one (c : Config) (fits : c.Fits) (n : Nat) :
    (c.position n + 1).toNat = (c.position n).toNat + 1 := by
  have low := c.stamp_mod_oneLap fits n
  have bound := (c.position n).toNat_lt
  rw [UInt64.toNat_add, UInt64.toNat_one] at low ⊢
  by_cases last : (c.position n).toNat + 1 = 2 ^ 64
  · -- The word behind the last one is zero, and names the first slot.
    rw [last, Nat.mod_self, Nat.zero_mod] at low
    omega
  · exact Nat.mod_eq_of_lt (by omega)

/-- The distance of two laps is more than the step to the stamp of a full slot. -/
theorem Config.oneLap_ne_one (c : Config) (fits : c.Fits) : c.oneLap ≠ 1 := by
  obtain ⟨k, first, -, lap, -⟩ := fits.oneLap_eq
  intro one
  rw [one, UInt64.toNat_one] at lap
  exact absurd (Nat.pow_right_injective (Nat.le_refl 2) (lap.symm.trans (Nat.pow_zero 2).symm))
    (by omega)

theorem iterate_next_position (r : Ring α) (fits : r.config.Fits) (n j : Nat) :
    r.next^[j] (r.config.position n) = r.config.position (n + j) := by
  induction j with
  | zero => rfl
  | succ j ih => rw [Function.iterate_succ_apply', ih, next_position r fits, Nat.add_assoc]

/-- What is computed from the word `w` of a head or a tail stays in range, and the words behind it
go around the ring. -/
structure Steady (r : Ring α) (w : UInt64) : Prop where
  index_lt : r.index w < r.config.capacity
  index_add_one : (r.index w + 1).toNat = (r.index w).toNat + 1
  add_one : (w + 1).toNat = w.toNat + 1
  /-- A store does not find the slot both free and full. -/
  store_tests : ∀ stamp, ¬(w = stamp ∧ stamp + r.config.oneLap = w + 1)
  /-- Nor does a take. -/
  take_tests : ∀ stamp, ¬(w + 1 = stamp ∧ stamp = w)
  /-- The slots come in their order, the first one behind the last one. -/
  index_iterate : ∀ j, (r.index (r.next^[j] w)).toNat
    = ((r.index w).toNat + j) % r.config.capacity.toNat
  /-- Behind all slots there is the same one again, one lap further on. -/
  iterate_capacity : r.next^[r.config.capacity.toNat] w = w + r.config.oneLap

theorem steady_position (r : Ring α) (fits : r.config.Fits) (n : Nat) :
    r.Steady (r.config.position n) := by
  have slot := toNat_index_position r fits n
  have within := Nat.mod_lt n r.config.capacity_toNat_pos
  have word := r.config.capacity.toNat_lt
  refine ⟨?_, ?_, r.config.toNat_position_add_one fits n, ?_, ?_, fun j => ?_, ?_⟩
  · rw [UInt64.lt_iff_toNat_lt, slot]
    exact within
  · rw [UInt64.toNat_add, UInt64.toNat_one, slot]
    exact Nat.mod_eq_of_lt (by omega)
  · rintro stamp ⟨rfl, older⟩
    exact r.config.oneLap_ne_one fits ((UInt64.add_right_inj _).1 older)
  · rintro stamp ⟨rfl, free⟩
    have := congrArg UInt64.toNat free
    rw [r.config.toNat_position_add_one fits n] at this
    omega
  · rw [iterate_next_position r fits, toNat_index_position r fits, slot, Nat.mod_add_mod]
  · rw [iterate_next_position r fits, r.config.position_add_capacity]

/-! ## A head and a tail -/

/-- The number of positions from the word `head` to the word `tail` is computed without leaving the
range of words, whether or not the two were there together. -/
structure Measured (r : Ring α) (head tail : UInt64) : Prop where
  forward : r.index head < r.index tail →
    (r.index tail - r.index head).toNat + (r.index head).toNat = (r.index tail).toNat
  around : (r.config.capacity - r.index head).toNat + (r.index head).toNat
    = r.config.capacity.toNat
  sum : r.index tail < r.index head → (r.config.capacity - r.index head + r.index tail).toNat
    = (r.config.capacity - r.index head).toNat + (r.index tail).toNat
  distance_le : r.distance head tail ≤ r.config.capacity

theorem Steady.measured {r : Ring α} {head tail : UInt64} (first : r.Steady head)
    (last : r.Steady tail) : r.Measured head tail := by
  have headLt := UInt64.lt_iff_toNat_lt.1 first.index_lt
  have tailLt := UInt64.lt_iff_toNat_lt.1 last.index_lt
  have word := r.config.capacity.toNat_lt
  have room : (r.config.capacity - r.index head).toNat
      = r.config.capacity.toNat - (r.index head).toNat :=
    UInt64.toNat_sub_of_le _ _ (UInt64.le_iff_toNat_le.2 (Nat.le_of_lt headLt))
  have forward (ahead : r.index head < r.index tail) :
      (r.index tail - r.index head).toNat = (r.index tail).toNat - (r.index head).toNat :=
    UInt64.toNat_sub_of_le _ _ (UInt64.le_of_lt ahead)
  have sum (behind : r.index tail < r.index head) :
      (r.config.capacity - r.index head + r.index tail).toNat
        = (r.config.capacity - r.index head).toNat + (r.index tail).toNat := by
    rw [UInt64.lt_iff_toNat_lt] at behind
    rw [UInt64.toNat_add]
    exact Nat.mod_eq_of_lt (by omega)
  refine ⟨fun ahead => ?_, by omega, sum, ?_⟩
  · have := UInt64.lt_iff_toNat_lt.1 ahead
    rw [forward ahead]
    omega
  · unfold distance
    simp only [UInt64.le_iff_toNat_le]
    split
    · rename_i ahead
      rw [forward ahead]
      omega
    · split
      · rename_i behind
        rw [sum behind, room]
        rw [UInt64.lt_iff_toNat_lt] at behind
        omega
      · split
        · exact Nat.zero_le _
        · exact Nat.le_refl _

/-! ## One thread -/

/-- What one thread finds at the tail and at the head. -/
structure Conclusive (r : Ring α) : Prop where
  /-- The slot at the tail is free, or it is full and so is the ring. -/
  store : r.stampAt r.tail = r.tail ∨
    r.stampAt r.tail + r.config.oneLap = r.tail + 1 ∧ r.lapAhead r.head r.tail = true
  /-- The slot at the head is full, or it is free and the ring is empty. -/
  take : r.stampAt r.head = r.head + 1 ∨ r.stampAt r.head = r.head ∧ r.tail = r.head
  /-- A store goes one word on if it finds the slot free, and else it does not move the tail. -/
  tail_tryPush : ∀ a, (r.tryPush a).1.tail
    = if r.stampAt r.tail = r.tail then r.next r.tail else r.tail
  head_tryPush : ∀ a, (r.tryPush a).1.head = r.head
  /-- A take goes one word on if it finds the slot full. -/
  head_takeOldest : r.takeOldest.1.head
    = if r.stampAt r.head = r.head + 1 then r.next r.head else r.head
  tail_takeOldest : r.takeOldest.1.tail = r.tail

theorem count_head (r : Ring α) (f : Counters → Counters) : (r.count f).head = r.head := by
  unfold count
  split <;> rfl

theorem count_tail (r : Ring α) (f : Counters → Counters) : (r.count f).tail = r.tail := by
  unfold count
  split <;> rfl

section

variable {r : Ring α} {items : List α} {head : Nat}

/-- At the tail either test of a store succeeds, and the first one decides where the tail goes. -/
theorem Holds.at_tail (h : Holds r items head) :
    (r.stampAt r.tail = r.tail ∨
      r.stampAt r.tail + r.config.oneLap = r.tail + 1 ∧ r.lapAhead r.head r.tail = true) ∧
    ∀ a, (r.tryPush a).1.tail = (if r.stampAt r.tail = r.tail then r.next r.tail else r.tail) ∧
      (r.tryPush a).1.head = r.head := by
  rcases Nat.lt_or_ge items.length r.config.capacity.toNat with room | beyond
  · have free := h.stamp_of_room room
    refine ⟨.inl free, fun a => ?_⟩
    rw [h.tryPush_of_room room, if_pos free]
    exact ⟨count_tail _ _, count_head _ _⟩
  · have full := Nat.le_antisymm h.bounded beyond
    obtain ⟨other, older⟩ := h.stamp_of_full full
    refine ⟨.inr ⟨older, h.lapAhead_of_full full⟩, fun a => ?_⟩
    rw [h.tryPush_of_full full, if_neg other.symm]
    exact ⟨count_tail _ _, count_head _ _⟩

/-- At the head either test of a take succeeds, and the first one decides where the head goes. -/
theorem Holds.at_head (h : Holds r items head) :
    (r.stampAt r.head = r.head + 1 ∨ r.stampAt r.head = r.head ∧ r.tail = r.head) ∧
    r.takeOldest.1.head = (if r.stampAt r.head = r.head + 1 then r.next r.head else r.head) ∧
    r.takeOldest.1.tail = r.tail := by
  cases items with
  | nil =>
      have free := h.stamp_of_nil
      have plain : r.stampAt r.head ≠ r.head + 1 := by
        rw [free, h.head_eq]
        exact (r.config.stamp_ne_position h.fits rfl).symm
      rw [h.takeOldest_of_nil, if_neg plain]
      exact ⟨.inr ⟨free, h.tail_eq_head⟩, rfl, rfl⟩
  | cons a items =>
      rw [h.takeOldest_of_cons, if_pos h.stamp_of_cons]
      exact ⟨.inl h.stamp_of_cons, rfl, rfl⟩

theorem Holds.conclusive (h : Holds r items head) : r.Conclusive where
  store := h.at_tail.1
  take := h.at_head.1
  tail_tryPush := fun a => (h.at_tail.2 a).1
  head_tryPush := fun a => (h.at_tail.2 a).2
  head_takeOldest := h.at_head.2.1
  tail_takeOldest := h.at_head.2.2

end

/-! ## Any number of threads -/

/-- The words that a thread has read and not forgotten. -/
def Place.words : Place α → List UInt64
  | .pushStamp _ w | .pushClaim _ w | .pushWrite _ w | .pushPublish w | .pushHead _ w => [w]
  | .popStamp w | .popClaim w | .popRead w | .popFree w _ | .popTail w => [w]
  | .lengthHead w | .emptyTail w | .fullHead w => [w]
  | .lengthAgain tail head => [tail, head]
  | _ => []

/-- The words of heads and tails that there are. -/
def Shared.words (s : Shared α) : List UInt64 :=
  s.ring.head :: s.ring.tail :: s.threads.flatMap Place.words

/-- A thread keeps words that it has, or reads the head or the tail. -/
theorem words_step (r : Ring α) (fails : Bool) (place : Place α) :
    (r.step fails place).2.words ⊆ r.head :: r.tail :: place.words := by
  cases place <;> simp only [step] <;> (try split_ifs) <;> simp [Place.words]

/-- What a step does to head and tail is told by its deed. -/
theorem claims_and_takes_of_moves {r r' : Ring α} {place place' : Place α}
    {deed : Option (Deed α)} (moves : place.Moves r r' place' deed) (t : Nat) :
    r'.config = r.config ∧
    (claimed (deed.toList.map fun deed => (t, deed)) = [] ∧ r'.tail = r.tail ∨
      ∃ a, claimed (deed.toList.map fun deed => (t, deed)) = [(r.tail, a)] ∧
        r'.tail = r.next r.tail) ∧
    (taken (deed.toList.map fun deed => (t, deed)) = [] ∧ r'.head = r.head ∨
      taken (deed.toList.map fun deed => (t, deed)) = [r.head] ∧ r'.head = r.next r.head) := by
  cases moves with
  | claims => exact ⟨rfl, .inr ⟨_, rfl, rfl⟩, .inl ⟨rfl, rfl⟩⟩
  | takes => exact ⟨rfl, .inl ⟨rfl, rfl⟩, .inr ⟨rfl, rfl⟩⟩
  | _ => exact ⟨rfl, .inl ⟨rfl, rfl⟩, .inl ⟨rfl, rfl⟩⟩

/-- The words in `passed` are those of the first positions, and `w` is the one behind them. -/
structure Config.Follows (c : Config) (passed : List UInt64) (w : UInt64) : Prop where
  passed_eq : passed = (List.range passed.length).map c.position
  word_eq : w = c.position passed.length

section Follows

variable {c : Config} {passed : List UInt64} {w : UInt64}

theorem Config.Follows.next {r : Ring α} (follows : c.Follows passed w) (config : r.config = c)
    (fits : c.Fits) : c.Follows (passed ++ [w]) (r.next w) := by
  subst config
  obtain ⟨passed_eq, rfl⟩ := follows
  constructor
  · rw [List.length_append, List.length_singleton, List.range_succ, List.map_append, ← passed_eq]
    rfl
  · rw [next_position r fits, List.length_append, List.length_singleton]

theorem Config.Follows.eq_position (follows : c.Follows passed w) {n : Nat} {v : UInt64}
    (here : passed[n]? = some v) : v = c.position n := by
  rw [follows.passed_eq, List.getElem?_map] at here
  obtain ⟨m, found, rfl⟩ := Option.map_eq_some_iff.1 here
  obtain ⟨-, rfl⟩ := List.getElem?_eq_some_iff.1 found
  rw [List.getElem_range]

end Follows

/-- Behind the deeds `h` the claims have led to the tail and the takes to the head, and the words
that threads have are words of positions. -/
structure OnCourse (c : Config) (h : Deeds α) (s : Shared α) : Prop where
  config_eq : s.ring.config = c
  tail : c.Follows ((claimed h).map Prod.fst) s.ring.tail
  head : c.Follows (taken h) s.ring.head
  threads : ∀ w ∈ s.threads.flatMap Place.words, ∃ n, w = c.position n

section Runs

variable {c : Config} {h : Deeds α} {s : Shared α}

theorem onCourse_start (c : Config) (threads : Nat) :
    OnCourse c ([] : Deeds α) (Shared.start c threads) where
  config_eq := rfl
  tail := ⟨rfl, c.position_zero.symm⟩
  head := ⟨rfl, c.position_zero.symm⟩
  threads := by simp [Shared.start, Place.words]

theorem OnCourse.exists_position (course : OnCourse c h s) :
    ∀ w ∈ s.words, ∃ n, w = c.position n := by
  intro w there
  rcases List.mem_cons.1 there with rfl | there
  · exact ⟨_, course.head.word_eq⟩
  · rcases List.mem_cons.1 there with rfl | there
    · exact ⟨_, course.tail.word_eq⟩
    · exact course.threads w there

/-- Threads that have no other words than there were before. -/
theorem OnCourse.threads_set (course : OnCourse c h s) (t : Nat) {place : Place α}
    (known : ∀ w ∈ place.words, w ∈ s.words) :
    ∀ w ∈ (s.threads.set t place).flatMap Place.words, ∃ n, w = c.position n := by
  intro w there
  obtain ⟨other, member, has⟩ := List.mem_flatMap.1 there
  rcases List.mem_or_eq_of_mem_set member with old | rfl
  · exact course.threads w (List.mem_flatMap.2 ⟨other, old, has⟩)
  · exact course.exists_position w (known w has)

theorem OnCourse.step (fits : c.Fits) (course : OnCourse c h s) {t : Nat} {place : Place α}
    (here : s.threads[t]? = some place) (fails : Bool) :
    OnCourse c (h ++ (s.ring.deed? fails place).toList.map fun deed => (t, deed))
      ⟨(s.ring.step fails place).1, s.threads.set t (s.ring.step fails place).2⟩ := by
  obtain ⟨config, atTail, atHead⟩ :=
    claims_and_takes_of_moves (Place.moves_of_step s.ring fails place) t
  refine ⟨config.trans course.config_eq, ?_, ?_, course.threads_set t ?_⟩
  · rw [claimed_append, List.map_append]
    rcases atTail with ⟨nothing, same⟩ | ⟨a, one, next⟩
    · rw [nothing, same]
      simpa using course.tail
    · rw [one, next]
      exact course.tail.next course.config_eq fits
  · rw [taken_append]
    rcases atHead with ⟨nothing, same⟩ | ⟨one, next⟩
    · rw [nothing, same]
      simpa using course.head
    · rw [one, next]
      exact course.head.next course.config_eq fits
  · intro w has
    have among := words_step s.ring fails place has
    simp only [List.mem_cons] at among
    rcases among with rfl | rfl | old
    · exact List.mem_cons_self
    · exact List.mem_cons_of_mem _ List.mem_cons_self
    · have member := List.mem_flatMap.2 ⟨place, List.mem_of_getElem? here, old⟩
      exact List.mem_cons_of_mem _ (List.mem_cons_of_mem _ member)

theorem OnCourse.turn (fits : c.Fits) (course : OnCourse c h s) {turn : Turn α} {u : Shared α}
    {new : Deeds α} (next : s.turn turn = some (u, new)) : OnCourse c (h ++ new) u := by
  cases turn with
  | begins t task =>
      simp only [Shared.turn] at next
      split at next
      · split at next
        · cases next
          rw [List.append_nil]
          refine ⟨course.config_eq, course.tail, course.head, course.threads_set t ?_⟩
          cases task <;> simp [Task.place, Place.words]
        · cases next
      · cases next
  | steps t fails =>
      simp only [Shared.turn] at next
      split at next
      · rename_i place here
        rw [Shared.step, here] at next
        cases next
        exact course.step fits here fails
      · cases next

/-- However long a run is, it stays on course. -/
theorem OnCourse.of_run (fits : c.Fits) {threads : Nat} {turns : List (Turn α)}
    (run : Shared.Run (Shared.start c threads) turns h s) : OnCourse c h s := by
  induction run with
  | nil => exact onCourse_start c threads
  | snoc _ next ih => exact ih.turn fits next

/-- The words that claims or takes have led over go through the slots in order, and come back to
each of them one lap further on. -/
def GoesAround (r : Ring α) (passed : List UInt64) : Prop :=
  ∀ n w, passed[n]? = some w → (r.index w).toNat = n % r.config.capacity.toNat ∧
    ∀ v, passed[n + r.config.capacity.toNat]? = some v → v = w + r.config.oneLap

theorem Config.Follows.goesAround {passed : List UInt64} {w : UInt64} {r : Ring α}
    (follows : r.config.Follows passed w) (fits : r.config.Fits) : r.GoesAround passed := by
  intro n v here
  obtain rfl := follows.eq_position here
  refine ⟨toNat_index_position r fits n, fun u there => ?_⟩
  rw [follows.eq_position there, r.config.position_add_capacity]

end Runs

/-- **The arithmetic of positions never leaves its range.** Let a ring have any capacity whose lap
can be written as a word. Let any number of threads work on it, for any time, and so over any number
of laps, also of those at which the words wrap around: every word of a head or a tail that the ring
or a thread has names a slot; the index and the word itself can be counted up by one, and the
difference of any two of them can be computed, without leaving the range of words; the two tests of
a store for a stamp exclude each other, and so do those of a take. The claimed words go through the
slots in order, once in each lap, and come back one lap further on, and the words taken do so too.

All of this holds as well of a ring that a single thread uses, at any moment of a call. There one of
the tests always succeeds: either the slot at the tail is free, or it is full and the ring is, and
likewise at the head; and the first of the tests decides whether the tail, or the head, goes on by
one word. -/
theorem positions_stay_in_range (c : Config) (fits : c.capacity.toNat + 1 ≤ 2 ^ 63) :
    (∀ threads turns (h : Deeds α) s, Shared.Run (Shared.start c threads) turns h s →
      s.ring.config = c ∧ (∀ w ∈ s.words, s.ring.Steady w) ∧
      (∀ head ∈ s.words, ∀ tail ∈ s.words, s.ring.Measured head tail) ∧
      s.ring.GoesAround ((claimed h).map Prod.fst) ∧ s.ring.GoesAround (taken h)) ∧
    (∀ r : Ring α, Reached c r →
      r.config = c ∧ r.Steady r.tail ∧ r.Steady r.head ∧ r.Measured r.head r.tail ∧
      r.Conclusive) := by
  constructor
  · intro threads turns h s run
    have course := OnCourse.of_run fits run
    obtain rfl := course.config_eq
    have steady (w : UInt64) (there : w ∈ s.words) : s.ring.Steady w := by
      obtain ⟨n, rfl⟩ := course.exists_position w there
      exact steady_position s.ring fits n
    refine ⟨rfl, steady, ?_, course.tail.goesAround fits, course.head.goesAround fits⟩
    intro head first tail last
    exact (steady head first).measured (steady tail last)
  · intro r reached
    obtain ⟨⟨-, head, holds⟩, rfl⟩ := reached.represents fits
    have steadyTail : r.Steady r.tail := by
      rw [holds.tail_eq]
      exact steady_position r fits _
    have steadyHead : r.Steady r.head := by
      rw [holds.head_eq]
      exact steady_position r fits _
    exact ⟨rfl, steadyTail, steadyHead, steadyHead.measured steadyTail, holds.conclusive⟩

/-- What a single thread does to bring these tasks to their ends. -/
def oneByOne (tasks : List (Task Nat)) : List (Turn Nat) :=
  tasks.flatMap fun task => .begins 0 task :: List.replicate 5 (.steps 0 false)

/-- Two slots, of which the first one is claimed again in the second lap; and a full ring. -/
theorem positions_stay_in_range_of_two_slots :
    ∃ c : Config, c.capacity = 2 ∧ c.capacity.toNat + 1 ≤ 2 ^ 63 ∧
      (∃ h s, Shared.Run (Shared.start c 1) (oneByOne [.store 7, .store 8, .take, .store 9]) h s ∧
        (claimed h).map Prod.fst = [0, 1, 4] ∧ s.ring.GoesAround [0, 1, 4]) ∧
      ∃ r : Ring Nat, Reached c r ∧ r.isFull = true ∧ r.Steady r.tail ∧ r.Conclusive := by
  obtain ⟨c, two⟩ : ∃ c : Config, c = ⟨2, by decide, .dropNewest, false⟩ := ⟨_, rfl⟩
  have fits : c.capacity.toNat + 1 ≤ 2 ^ 63 := by
    rw [two]
    decide
  obtain ⟨runs, reaches⟩ := positions_stay_in_range (α := Nat) c fits
  refine ⟨c, by rw [two], fits, ?_, ?_⟩
  · have test : ((Shared.start c 1).follow [] (oneByOne [.store 7, .store 8, .take, .store 9])).map
        (fun e => (claimed e.2).map Prod.fst) = some [0, 1, 4] := by
      rw [two]
      decide +kernel
    obtain ⟨⟨s, h⟩, followed, shown⟩ := Option.map_eq_some_iff.1 test
    have run := (Shared.Run.nil (Shared.start c 1)).follow followed
    obtain ⟨-, -, -, around, -⟩ := runs _ _ _ _ run
    exact ⟨h, s, run, shown, shown ▸ around⟩
  · have reached : Reached c (((Ring.new c).tryPush 1).1.tryPush 2).1 :=
      (Reached.new.tryPush 1).tryPush 2
    obtain ⟨-, steady, -, -, conclusive⟩ := reaches _ reached
    refine ⟨_, reached, ?_, steady, conclusive⟩
    rw [two]
    decide +kernel

end Telemetry.Ring
