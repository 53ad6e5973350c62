import Telemetry.Proofs.Ring.Linear

set_option autoImplicit false

/-! # Answers of a ring that others work on

A thread puts its answer together from words that it reads one after the other, while other threads
move the tail and the head. Still every refusal, every report of an empty ring, every test that says
yes and every count is right: at some moment of the call, that many positions were claimed and not
taken.

The argument is the same for all of them. Tail and head only move on, so a word that is read twice
has stayed in between, and a word that was read early and fits a word that is read late was still
there when the late one was read. `Task.Learns` says what a thread has learnt at each place of its
call in these terms. -/

namespace Telemetry.Ring

variable {α : Type} {c : Config}

/-! ## Moments of a call -/

/-- The thread that begins an operation. -/
def Turn.begun? : Turn α → Option Nat
  | .begins t _ => some t
  | .steps _ _ => none

/-- Thread `t` is in a call that goes on from `s` by these turns, with the deeds `h`. At some moment
of it, before the call has ended, `p` holds of the deeds so far. -/
def Shared.During (s : Shared α) (t : Nat) (turns : List (Turn α)) (h : Deeds α)
    (p : Deeds α → Prop) : Prop :=
  ∃ first rest moment later u place, turns = first ++ rest ∧ h = moment ++ later
    ∧ Run s first moment u ∧ u.threads[t]? = some place ∧ place.isDone = false ∧ p moment

/-- What the answer of a task says, if `n` records were in the ring. -/
inductive Task.Answer (capacity n : Nat) : Task α → Place α → Prop where
  | stored {a : α} : Answer capacity n (.store a) .stored
  | refused {a : α} : n = capacity → Answer capacity n (.store a) (.refused a)
  | taken {value : Option α} : Answer capacity n .take (.taken value)
  | nothing : n = 0 → Answer capacity n .take .nothing
  | counted {k : UInt64} : k.toNat = n → Answer capacity n .count (.counted k)
  | empty : n = 0 → Answer capacity n .testEmpty (.answered true)
  | notEmpty : Answer capacity n .testEmpty (.answered false)
  | full : n = capacity → Answer capacity n .testFull (.answered true)
  | notFull : Answer capacity n .testFull (.answered false)

theorem Shared.During.append {s : Shared α} {t : Nat} {turns : List (Turn α)} {h : Deeds α}
    {p : Deeds α → Prop} (during : s.During t turns h p) (more : List (Turn α)) (new : Deeds α) :
    s.During t (turns ++ more) (h ++ new) p := by
  obtain ⟨first, rest, moment, later, u, place, rfl, rfl, run, thread, busy, holds⟩ := during
  refine ⟨first, rest ++ more, moment, later ++ new, u, place, ?_, ?_, run, thread, busy, holds⟩
  · rw [List.append_assoc]
  · rw [List.append_assoc]

theorem Shared.Run.append {s t u : Shared α} {turns turns' : List (Turn α)} {h h' : Deeds α}
    (run : Run s turns h t) (run' : Run t turns' h' u) :
    Run s (turns ++ turns') (h ++ h') u := by
  induction run' with
  | nil =>
      rw [List.append_nil, List.append_nil]
      exact run
  | snoc _ turned ih =>
      rw [← List.append_assoc, ← List.append_assoc]
      exact .snoc ih turned

/-! ## What a thread learns -/

/-- What a thread at some place of its task has learnt, while the head is number `head` and the tail
number `tail`. `seen m n` says that at some moment of the call they were `m` and `n`. -/
inductive Task.Learns (c : Config) (seen : Nat → Nat → Prop) (head tail : Nat) :
    Task α → Place α → Prop where
  | pushTail {a : α} : Learns c seen head tail (.store a) (.pushTail a)
  | pushStamp {a : α} {w : UInt64} : Learns c seen head tail (.store a) (.pushStamp a w)
  | pushClaim {a : α} {w : UInt64} : Learns c seen head tail (.store a) (.pushClaim a w)
  | pushWrite {a : α} {w : UInt64} : Learns c seen head tail (.store a) (.pushWrite a w)
  | pushPublish {a : α} {w : UInt64} : Learns c seen head tail (.store a) (.pushPublish w)
  | pushHead {a : α} {w : UInt64} : Learns c seen head tail (.store a) (.pushHead a w)
  | stored {a : α} : Learns c seen head tail (.store a) .stored
  | refused {a : α} {m : Nat} : seen m (m + c.capacity.toNat) →
      Learns c seen head tail (.store a) (.refused a)
  | popHead : Learns c seen head tail .take .popHead
  | popStamp {w : UInt64} : Learns c seen head tail .take (.popStamp w)
  | popClaim {w : UInt64} : Learns c seen head tail .take (.popClaim w)
  | popRead {w : UInt64} : Learns c seen head tail .take (.popRead w)
  | popFree {w : UInt64} {value : Option α} : Learns c seen head tail .take (.popFree w value)
  | popTail {w : UInt64} : Learns c seen head tail .take (.popTail w)
  | taken {value : Option α} : Learns c seen head tail .take (.taken value)
  | nothing {m : Nat} : seen m m → Learns c seen head tail .take .nothing
  | lengthTail : Learns c seen head tail .count .lengthTail
  | lengthHead {n : Nat} : n ≤ tail → Learns c seen head tail .count (.lengthHead (c.position n))
  /-- When the head was read, the tail was at `n'`, not before the one that had been read. -/
  | lengthAgain {m n n' : Nat} : n ≤ n' → n' ≤ tail → seen m n' → m ≤ n' →
      n' ≤ m + c.capacity.toNat →
      Learns c seen head tail .count (.lengthAgain (c.position n) (c.position m))
  | counted {m n : Nat} {k : UInt64} : seen m n → k.toNat = n - m →
      Learns c seen head tail .count (.counted k)
  | emptyHead : Learns c seen head tail .testEmpty .emptyHead
  | emptyTail {m : Nat} : m ≤ head → Learns c seen head tail .testEmpty (.emptyTail (c.position m))
  | empty {m : Nat} : seen m m → Learns c seen head tail .testEmpty (.answered true)
  | notEmpty : Learns c seen head tail .testEmpty (.answered false)
  | fullTail : Learns c seen head tail .testFull .fullTail
  | fullHead {n : Nat} : n ≤ tail → Learns c seen head tail .testFull (.fullHead (c.position n))
  | full {m : Nat} : seen m (m + c.capacity.toNat) →
      Learns c seen head tail .testFull (.answered true)
  | notFull : Learns c seen head tail .testFull (.answered false)

section Learning

variable {seen seen' : Nat → Nat → Prop} {head head' tail tail' : Nat} {task : Task α}
  {place : Place α}

theorem Task.learns_place (task : Task α) : task.Learns c seen head tail task.place := by
  cases task with
  | store a => exact .pushTail
  | take => exact .popHead
  | count => exact .lengthTail
  | testEmpty => exact .emptyHead
  | testFull => exact .fullTail

/-- What was learnt stays true while others work. -/
theorem Task.Learns.mono (learns : task.Learns c seen head tail place) (hhead : head ≤ head')
    (htail : tail ≤ tail') (kept : ∀ m n, seen m n → seen' m n) :
    task.Learns c seen' head' tail' place := by
  cases learns with
  | refused full => exact .refused (kept _ _ full)
  | nothing empty => exact .nothing (kept _ _ empty)
  | lengthHead old => exact .lengthHead (old.trans htail)
  | lengthAgain before old moment order room =>
      exact .lengthAgain before (old.trans htail) (kept _ _ moment) order room
  | counted moment count => exact .counted (kept _ _ moment) count
  | emptyTail old => exact .emptyTail (old.trans hhead)
  | empty moment => exact .empty (kept _ _ moment)
  | fullHead old => exact .fullHead (old.trans htail)
  | full moment => exact .full (kept _ _ moment)
  | _ => constructor

end Learning

section Steps

variable {seen : Nat → Nat → Prop} {h : Deeds α} {s u : Shared α} {t : Nat} {task : Task α}
  {place : Place α}

/-- A word that is read again has stayed in between. -/
theorem Sound.tail_stayed (sound : Sound c h s) {n n' : Nat} (before : n ≤ n')
    (old : n' ≤ tailOf h) (again : s.ring.tail = c.position n) : n' = n := by
  rw [sound.tail_eq] at again
  have same := c.position_inj sound.fits sound.laps (by have := sound.laps; omega) again
  omega

theorem Sound.counts (sound : Sound c h s) {m n : Nat} (order : m ≤ n)
    (room : n ≤ m + c.capacity.toNat) :
    (s.ring.distance (c.position m) (c.position n)).toNat = n - m := by
  have fits : s.ring.config.Fits := sound.config_eq ▸ sound.fits
  rw [← sound.config_eq] at room ⊢
  exact distance_position s.ring fits order room

/-- If the head is one lap behind a tail that was read before, then the tail has stayed. -/
theorem Sound.full_of_ahead (sound : Sound c h s) {n : Nat} (old : n ≤ tailOf h)
    (ahead : s.ring.lapAhead s.ring.head (c.position n) = true)
    (few : tailOf h + c.capacity.toNat < c.capacity.toNat * c.lapLimit) :
    tailOf h = headOf h + c.capacity.toNat := by
  rw [lapAhead, beq_iff_eq, sound.config_eq, sound.head_eq, ← c.position_add_capacity] at ahead
  have order := sound.order
  have room := sound.room
  have := c.position_inj sound.fits (by omega) (by omega) ahead
  omega

/-- If a head that was read before is at the tail, then the head has stayed. -/
theorem Sound.empty_of_same (sound : Sound c h s) {m : Nat} (old : m ≤ headOf h)
    (same : s.ring.tail = c.position m) : tailOf h = headOf h := by
  rw [sound.tail_eq] at same
  have laps := sound.laps
  have order := sound.order
  have := c.position_inj sound.fits laps (by omega) same
  omega

/-- A step of the thread. If it comes to an answer, then the moment of the step bears the answer
out, or an earlier one does. -/
theorem Sound.learns (sound : Sound c h s)
    (few : tailOf h + c.capacity.toNat < c.capacity.toNat * c.lapLimit)
    (here : s.threads[t]? = some place)
    (learns : task.Learns c seen (headOf h) (tailOf h) place)
    (now : place.isDone = false → seen (headOf h) (tailOf h)) (fails : Bool) :
    task.Learns c seen (headOf h) (tailOf h) (s.ring.step fails place).2 := by
  cases learns with
  | pushTail => exact .pushStamp
  | pushStamp =>
      simp only [Ring.step]
      split
      · exact .pushClaim
      · split
        · exact .pushHead
        · exact .pushTail
  | pushClaim =>
      simp only [Ring.step]
      split
      · exact .pushWrite
      · exact .pushStamp
  | pushWrite => exact .pushPublish
  | pushPublish => exact .stored
  | pushHead =>
      simp only [Ring.step]
      split
      · rename_i ahead
        have full := sound.full_of_refuses here ahead few.le
        exact .refused (full ▸ now rfl)
      · exact .pushTail
  | popHead => exact .popStamp
  | popStamp =>
      simp only [Ring.step]
      split
      · exact .popClaim
      · split
        · exact .popTail
        · exact .popHead
  | popClaim =>
      simp only [Ring.step]
      split
      · exact .popRead
      · exact .popStamp
  | popRead => exact .popFree
  | popFree => exact .taken
  | popTail =>
      simp only [Ring.step]
      split
      · rename_i same
        have empty := sound.empty_of_findsNothing here same
        exact .nothing (empty ▸ now rfl)
      · exact .popHead
  | lengthTail =>
      simp only [Ring.step, sound.tail_eq]
      exact .lengthHead (Nat.le_refl _)
  | lengthHead old =>
      simp only [Ring.step, sound.head_eq]
      exact .lengthAgain old (Nat.le_refl _) (now rfl) sound.order sound.room
  | lengthAgain before old moment order room =>
      simp only [Ring.step]
      split
      · rename_i again
        obtain rfl := sound.tail_stayed before old again
        exact .counted moment (sound.counts order room)
      · exact .lengthTail
  | emptyHead =>
      simp only [Ring.step, sound.head_eq]
      exact .emptyTail (Nat.le_refl _)
  | @emptyTail m old =>
      simp only [Ring.step]
      cases same : s.ring.tail == c.position m with
      | true =>
          have empty := sound.empty_of_same old (eq_of_beq same)
          exact .empty (empty ▸ now rfl)
      | false => exact .notEmpty
  | fullTail =>
      simp only [Ring.step, sound.tail_eq]
      exact .fullHead (Nat.le_refl _)
  | @fullHead n old =>
      simp only [Ring.step]
      cases ahead : s.ring.lapAhead s.ring.head (c.position n) with
      | true =>
          have full := sound.full_of_ahead old ahead few
          exact .full (full ▸ now rfl)
      | false => exact .notFull
  | stored => exact .stored
  | refused full => exact .refused full
  | taken => exact .taken
  | nothing empty => exact .nothing empty
  | counted moment count => exact .counted moment count
  | empty moment => exact .empty moment
  | notEmpty => exact .notEmpty
  | full moment => exact .full moment
  | notFull => exact .notFull

end Steps

/-! ## Calls -/

section Calls

variable {threads : Nat} {h₀ h : Deeds α} {s₀ s₁ s u : Shared α} {t : Nat} {task : Task α}
  {place : Place α} {turns₀ turns : List (Turn α)}

theorem headOf_le_of_append {h new : Deeds α} : headOf h ≤ headOf (h ++ new) := by
  rw [headOf_append]
  exact Nat.le_add_right ..

theorem Shared.begun {new : Deeds α} (turned : s₀.turn (.begins t task) = some (s₁, new)) :
    new = [] ∧ s₁.threads[t]? = some task.place := by
  simp only [Shared.turn] at turned
  split at turned
  · rename_i place here
    split at turned
    · cases turned
      exact ⟨rfl, List.getElem?_set_self (List.getElem?_eq_some_iff.1 here).1⟩
    · cases turned
  · cases turned

theorem Task.place_isDone (task : Task α) : task.place.isDone = false := by
  cases task <;> rfl

/-- Where a turn leaves thread `t`, if it does not begin anything: its own step, or where it was. -/
theorem Shared.thread_of_turn {turn : Turn α} {new : Deeds α}
    (turned : s.turn turn = some (u, new)) (goesOn : turn.begun? ≠ some t)
    (here : s.threads[t]? = some place) :
    u.threads[t]? = some place ∨ ∃ fails, u.threads[t]? = some (s.ring.step fails place).2 := by
  cases turn with
  | begins t' task =>
      have other : t' ≠ t := fun same => goesOn (congrArg some same)
      simp only [Shared.turn] at turned
      split at turned
      · split at turned
        · cases turned
          exact .inl (by rw [List.getElem?_set_ne other, here])
        · cases turned
      · cases turned
  | steps t' fails =>
      simp only [Shared.turn] at turned
      split at turned
      · rename_i place' there
        cases turned
        simp only [Shared.step, there]
        by_cases same : t' = t
        · subst same
          obtain rfl : place' = place := Option.some.inj (there.symm.trans here)
          exact .inr ⟨fails, List.getElem?_set_self (List.getElem?_eq_some_iff.1 here).1⟩
        · exact .inl (by rw [List.getElem?_set_ne same, here])
      · cases turned

/-- The head and the tail were number `m` and `n` at some moment of the call so far, which began
behind the deeds `h₀`. -/
def Shared.Saw (h₀ : Deeds α) (s₁ : Shared α) (t : Nat) (turns : List (Turn α)) (h : Deeds α)
    (m n : Nat) : Prop :=
  s₁.During t turns h fun moment => headOf (h₀ ++ moment) = m ∧ tailOf (h₀ ++ moment) = n

theorem Shared.Run.learns (fits : c.Fits) (before : Run (Shared.start c threads) turns₀ h₀ s₁)
    (begun : s₁.threads[t]? = some task.place) (call : Run s₁ turns h s)
    (goesOn : ∀ turn ∈ turns, turn.begun? ≠ some t)
    (few : tailOf (h₀ ++ h) + c.capacity.toNat < c.capacity.toNat * c.lapLimit) :
    ∃ place, s.threads[t]? = some place
      ∧ task.Learns c (s₁.Saw h₀ t turns h) (headOf (h₀ ++ h)) (tailOf (h₀ ++ h)) place := by
  induction call with
  | nil => exact ⟨task.place, begun, task.learns_place⟩
  | @snoc s u turns h new turn call turned ih =>
      rw [← List.append_assoc] at few ⊢
      have few' : tailOf (h₀ ++ h) + c.capacity.toNat < c.capacity.toNat * c.lapLimit :=
        (Nat.add_le_add_right tailOf_le_of_append _).trans_lt few
      obtain ⟨place, here, learns⟩ :=
        ih (fun turn there => goesOn turn (List.mem_append_left _ there)) few'
      have sound : Sound c (h₀ ++ h) s := (before.append call).sound fits (by omega)
      have kept (m n : Nat) (saw : s₁.Saw h₀ t turns h m n) :
          s₁.Saw h₀ t (turns ++ [turn]) (h ++ new) m n :=
        saw.append [turn] new
      rcases Shared.thread_of_turn turned (goesOn turn (List.mem_append_right _ (by simp))) here
        with stays | ⟨fails, steps⟩
      · exact ⟨place, stays, learns.mono headOf_le_of_append tailOf_le_of_append kept⟩
      · have now (busy : place.isDone = false) :
            s₁.Saw h₀ t (turns ++ [turn]) (h ++ new) (headOf (h₀ ++ h)) (tailOf (h₀ ++ h)) :=
          ⟨turns, [turn], h, new, s, place, rfl, rfl, call, here, busy, rfl, rfl⟩
        have next := sound.learns few' here (learns.mono (Nat.le_refl _) (Nat.le_refl _) kept) now
          fails
        exact ⟨_, steps, next.mono headOf_le_of_append tailOf_le_of_append fun _ _ saw => saw⟩

/-- An answer is borne out by a moment; one that says nothing, by any moment. -/
theorem Task.Learns.answer {seen : Nat → Nat → Prop} {head tail m₀ n₀ : Nat}
    (learns : task.Learns c seen head tail place) (ended : place.isDone = true)
    (first : seen m₀ n₀) :
    ∃ m n, seen m n ∧ task.Answer c.capacity.toNat (n - m) place := by
  cases learns with
  | stored => exact ⟨m₀, n₀, first, .stored⟩
  | @refused _ m full => exact ⟨m, _, full, .refused (Nat.add_sub_cancel_left ..)⟩
  | taken => exact ⟨m₀, n₀, first, .taken⟩
  | nothing empty => exact ⟨_, _, empty, .nothing (Nat.sub_self _)⟩
  | counted moment count => exact ⟨_, _, moment, .counted count⟩
  | empty moment => exact ⟨_, _, moment, .empty (Nat.sub_self _)⟩
  | notEmpty => exact ⟨m₀, n₀, first, .notEmpty⟩
  | @full m moment => exact ⟨m, _, moment, .full (Nat.add_sub_cancel_left ..)⟩
  | notFull => exact ⟨m₀, n₀, first, .notFull⟩
  | _ => cases ended

theorem length_pending (h : Deeds α) : (pending h).length = tailOf h - headOf h := by
  rw [pending, List.length_map, List.length_drop]
  rfl

/-- What was claimed by the time the ring was empty has been taken. -/
theorem Sound.taken_of_empty (sound : Sound c (h₀ ++ h) s)
    (empty : (pending (h₀ ++ h)).length = 0) :
    ∀ w ∈ (claimed h₀).map (·.1), w ∈ taken (h₀ ++ h) := by
  intro w there
  have all : w ∈ (claimed (h₀ ++ h)).map (·.1) := by
    rw [claimed_append, List.map_append]
    exact List.mem_append_left _ there
  have order := sound.order
  rw [length_pending] at empty
  rw [sound.claimed_words, show tailOf (h₀ ++ h) = headOf (h₀ ++ h) by omega] at all
  rw [sound.takes]
  exact all

theorem Config.near_of_laps (c : Config) {n : Nat}
    (laps : n / c.capacity.toNat + 1 < c.lapLimit) :
    n + c.capacity.toNat < c.capacity.toNat * c.lapLimit := by
  have inside := Nat.lt_mul_div_succ n c.capacity_toNat_pos
  have whole := Nat.mul_le_mul_left c.capacity.toNat laps
  rw [Nat.succ_eq_add_one, Nat.mul_succ, Nat.mul_succ] at whole
  rw [Nat.mul_succ] at inside
  omega

/-- A thread calls any operation on a ring of any capacity, while any number of other threads work
on it and take their steps in any order. Whatever the call answers is right at some moment of it,
with as many records in the ring as positions are claimed and not taken: a refusal and a test that
finds the ring full, when all slots are taken; a report that there is nothing and a test that finds
the ring empty, when there is no record, so that all that had been stored before the call is taken;
and a count, with exactly as many records, which are never more than the ring can hold.

Laps are counted as those that the tail has been in, the one that it is in included, just as for the
atomic queue (`ring_is_atomic_queue`). There all laps may be used, and only the refusals leave the
last one out. Here the answers are all refusals and tests, and the tail must not come to the last
lap: in it the head would be one lap behind a tail that was read in the first. -/
theorem answers_hold_during_call (capacity : c.capacity.toNat + 1 < 2 ^ 64)
    (before : Shared.Run (Shared.start c threads) turns₀ h₀ s₀)
    (begins : s₀.turn (.begins t task) = some (s₁, [])) (call : Shared.Run s₁ turns h s)
    (goesOn : ∀ turn ∈ turns, turn.begun? ≠ some t) (answer : s.threads[t]? = some place)
    (ended : place.isDone = true) (laps : lapsOf c (h₀ ++ h) < c.lapLimit) :
    s₁.During t turns h
        (fun moment => task.Answer c.capacity.toNat (pending (h₀ ++ moment)).length place)
    ∧ (place = .nothing → ∀ w ∈ (claimed h₀).map (·.1), w ∈ taken (h₀ ++ h))
    ∧ (∀ n, place = .counted n → n ≤ c.capacity) := by
  have fits := c.fits_of_laps capacity (Nat.zero_lt_of_lt laps)
  have begun := (Shared.begun begins).2
  have before' := Shared.Run.snoc before begins
  rw [List.append_nil] at before'
  have few := c.near_of_laps laps
  obtain ⟨place', here, learns⟩ := before'.learns fits begun call goesOn few
  obtain rfl : place' = place := Option.some.inj (here.symm.trans answer)
  have first : s₁.Saw h₀ t turns h (headOf (h₀ ++ [])) (tailOf (h₀ ++ [])) :=
    ⟨[], turns, [], h, s₁, task.place, rfl, rfl, .nil s₁, begun, task.place_isDone, rfl, rfl⟩
  obtain ⟨m, n, saw, right⟩ := learns.answer ended first
  obtain ⟨turns', rest, moment, later, u, inside, rfl, rfl, run, thread, busy, rfl, rfl⟩ := saw
  rw [← length_pending] at right
  rw [← List.append_assoc] at few
  have earlier : tailOf (h₀ ++ moment) ≤ tailOf (h₀ ++ moment ++ later) := tailOf_le_of_append
  have sound : Sound c (h₀ ++ moment) u := (before'.append run).sound fits (by omega)
  refine ⟨⟨turns', rest, moment, later, u, inside, rfl, rfl, run, thread, busy, right⟩, ?_, ?_⟩
  · rintro rfl w there
    cases right with
    | nothing empty =>
      rw [← List.append_assoc, taken_append]
      exact List.mem_append_left _ (sound.taken_of_empty empty w there)
  · rintro k rfl
    cases right with
    | counted count =>
      rw [UInt64.le_iff_toNat_le, count, length_pending]
      have := sound.room
      omega

end Calls

/-- Thread 0 has stored a record in the only slot. -/
def storeFirst : List (Turn Nat) :=
  [.begins 0 (.store 7), .steps 0 false, .steps 0 false, .steps 0 false, .steps 0 false,
    .steps 0 false]

/-- Thread 1 finds no room for its record, while thread 0 begins to take one. -/
def findNoRoom : List (Turn Nat) :=
  [.steps 1 false, .begins 0 .take, .steps 1 false, .steps 0 false, .steps 1 false]

theorem answers_hold_during_call_of_one :
    ∃ h₀ s₀ s₁ h s, Shared.Run oneSlot storeFirst h₀ s₀
      ∧ s₀.turn (.begins 1 (.store 8)) = some (s₁, [])
      ∧ Shared.Run s₁ findNoRoom h s ∧ s.threads[1]? = some (.refused 8)
      ∧ lapsOf ⟨1, by decide, .dropNewest, false⟩ (h₀ ++ h)
        < Config.lapLimit ⟨1, by decide, .dropNewest, false⟩
      ∧ s₁.During 1 findNoRoom h fun moment => (pending (h₀ ++ moment)).length = 1 := by
  have test : (oneSlot.follow [] storeFirst).any (fun (s₀, h₀) =>
      (s₀.turn (.begins 1 (.store 8))).any fun (s₁, new) =>
        (s₁.follow [] findNoRoom).any fun (s, h) =>
          new.isEmpty && s.threads[1]? == some (.refused 8)
            && lapsOf ⟨1, by decide, .dropNewest, false⟩ (h₀ ++ h) == 2) = true := by
    decide +kernel
  obtain ⟨⟨s₀, h₀⟩, stored, test⟩ := Option.any_eq_true .. |>.1 test
  obtain ⟨⟨s₁, new⟩, begins, test⟩ := Option.any_eq_true .. |>.1 test
  obtain ⟨⟨s, h⟩, followed, test⟩ := Option.any_eq_true .. |>.1 test
  simp only [Bool.and_eq_true, List.isEmpty_iff, beq_iff_eq] at test
  obtain ⟨⟨rfl, answer⟩, laps⟩ := test
  have before : Shared.Run oneSlot storeFirst h₀ s₀ := (Shared.Run.nil oneSlot).follow stored
  have call : Shared.Run s₁ findNoRoom h s := (Shared.Run.nil s₁).follow followed
  have few : lapsOf ⟨1, by decide, .dropNewest, false⟩ (h₀ ++ h)
      < Config.lapLimit ⟨1, by decide, .dropNewest, false⟩ := by
    rw [laps]
    decide +kernel
  obtain ⟨during, -, -⟩ :=
    answers_hold_during_call (by decide) before begins call (by simp [findNoRoom, Turn.begun?])
      answer rfl few
  refine ⟨h₀, s₀, s₁, h, s, before, begins, call, answer, few, ?_⟩
  obtain ⟨first, rest, moment, later, u, place, cut, cut', run, here, busy, right⟩ := during
  refine ⟨first, rest, moment, later, u, place, cut, cut', run, here, busy, ?_⟩
  cases right with
  | refused full => exact full

end Telemetry.Ring
