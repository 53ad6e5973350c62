import Mathlib.Data.List.Basic
import Telemetry.Counters
import Telemetry.Proofs.Ring.Reactions
import Telemetry.Proofs.Ring.Refinement

set_option autoImplicit false

/-! # A ring whose callbacks push and panic

The operations of a ring that hand records to a callback do what `displace` and `consume` do to the
list that the ring stands for, whatever the callback pushes and wherever it panics. `Becomes` says
so for any operation, and how far it moves each counter on the way. -/

namespace Telemetry.Ring

variable {α : Type}

/-! ## How far the counters move -/

/-- Numbers of events that a ring counts. -/
@[ext]
structure Tally where
  pushed : Nat
  popped : Nat
  rejected : Nat
  evicted : Nat

namespace Tally

instance : Zero Tally :=
  ⟨⟨0, 0, 0, 0⟩⟩

instance : Add Tally :=
  ⟨fun t u =>
    ⟨t.pushed + u.pushed, t.popped + u.popped, t.rejected + u.rejected, t.evicted + u.evicted⟩⟩

variable (t u : Tally)

@[simp] theorem zero_pushed : (0 : Tally).pushed = 0 := rfl

@[simp] theorem zero_popped : (0 : Tally).popped = 0 := rfl

@[simp] theorem zero_rejected : (0 : Tally).rejected = 0 := rfl

@[simp] theorem zero_evicted : (0 : Tally).evicted = 0 := rfl

@[simp] theorem add_pushed : (t + u).pushed = t.pushed + u.pushed := rfl

@[simp] theorem add_popped : (t + u).popped = t.popped + u.popped := rfl

@[simp] theorem add_rejected : (t + u).rejected = t.rejected + u.rejected := rfl

@[simp] theorem add_evicted : (t + u).evicted = t.evicted + u.evicted := rfl

end Tally

/-- The counts after some more events. -/
def Counters.after (c : Counters) (t : Tally) : Counters :=
  ⟨c.pushed + t.pushed.toUInt64, c.popped + t.popped.toUInt64, c.rejected + t.rejected.toUInt64,
    c.evicted + t.evicted.toUInt64⟩

theorem Counters.after_zero (c : Counters) : c.after 0 = c :=
  Counters.ext (UInt64.add_zero _) (UInt64.add_zero _) (UInt64.add_zero _) (UInt64.add_zero _)

theorem Counters.after_add (c : Counters) (t u : Tally) :
    c.after (t + u) = (c.after t).after u := by
  have sum (w : UInt64) (m n : Nat) : w + (m + n).toUInt64 = w + m.toUInt64 + n.toUInt64 := by
    rw [toUInt64_add, UInt64.add_assoc]
  exact Counters.ext (sum ..) (sum ..) (sum ..) (sum ..)

/-- The counters of a ring after some more events; they stand still unless counting is on. -/
def countersAfter (r : Ring α) (t : Tally) : Counters :=
  if r.config.countersEnabled then r.counters.after t else r.counters

/-- An operation takes `r` to a ring that stands for `q`, and its events are counted. -/
structure Becomes (r : Ring α) (t : Tally) (q : Queue α) (s : Ring α) : Prop where
  represents : Represents s q
  config : s.config = r.config
  counters : s.counters = r.countersAfter t

section

variable {r s u : Ring α} {q q' : Queue α} {t t' : Tally}

theorem Becomes.refl (h : Represents r q) : Becomes r 0 q r where
  represents := h
  config := rfl
  counters := by
    unfold countersAfter
    split
    · exact (Counters.after_zero _).symm
    · rfl

/-- The same events, counted in another way. -/
theorem Becomes.congr (h : Becomes r t q s) (pushed : t.pushed = t'.pushed)
    (popped : t.popped = t'.popped) (rejected : t.rejected = t'.rejected)
    (evicted : t.evicted = t'.evicted) : Becomes r t' q s :=
  Tally.ext pushed popped rejected evicted ▸ h

theorem Becomes.trans (first : Becomes r t q s) (second : Becomes s t' q' u) :
    Becomes r (t + t') q' u where
  represents := second.represents
  config := second.config.trans first.config
  counters := by
    have later := second.counters
    rw [countersAfter, first.config, first.counters, countersAfter] at later
    rw [countersAfter, later]
    split
    · rw [Counters.after_add]
    · rfl

/-- Counting events that were not counted yet. -/
theorem Becomes.count (h : Becomes r t q s) {f : Counters → Counters} (t' : Tally)
    (counts : ∀ c, f c = c.after t') : Becomes r (t + t') q (s.count f) := by
  obtain ⟨capacity, head, holds⟩ := h.represents
  refine h.trans ⟨⟨?_, head, holds.count f⟩, count_config s f, ?_⟩
  · rw [count_config]
    exact capacity
  · unfold Ring.count countersAfter
    split
    · exact counts _
    · rfl

/-! ## Attempts -/

theorem Represents.withinBounds (h : Represents r q) : q.WithinBounds := by
  obtain ⟨capacity, head, holds⟩ := h
  exact ⟨capacity ▸ r.config.capacity_toNat_pos, capacity ▸ holds.bounded⟩

theorem Represents.isFull_eq (h : Represents r q) : r.isFull = q.isFull :=
  congrArg Status.isFull h.status_eq

/-- An attempt to store is what `push?` is on the list, and is counted. -/
theorem Represents.counts_tryPush (h : Represents r q) (a : α) :
    (∃ s q', q.push? a = some q' ∧ r.tryPush a = (s, .stored) ∧ Becomes r ⟨1, 0, 0, 0⟩ q' s) ∨
    (∃ s, q.push? a = none ∧ r.tryPush a = (s, .refused a) ∧ Becomes r ⟨0, 0, 1, 0⟩ q s) := by
  obtain ⟨capacity, head, holds⟩ := h
  rcases Nat.lt_or_ge q.items.length r.config.capacity.toNat with room | hge
  · have put : Becomes r 0 ⟨q.capacity, q.items ++ [a]⟩ (r.put a) :=
      ⟨⟨capacity, head, holds.put room a⟩, rfl, (Becomes.refl ⟨capacity, head, holds⟩).counters⟩
    exact .inl ⟨_, _, Queue.push?_eq_some_iff.2 ⟨capacity ▸ room, rfl⟩,
      holds.tryPush_of_room room a,
      put.count ⟨1, 0, 0, 0⟩ fun c => by ext <;> simp [Counters.after]⟩
  · have full := Nat.le_antisymm holds.bounded hge
    exact .inr ⟨_, Queue.push?_eq_none_iff.2 (capacity ▸ hge), holds.tryPush_of_full full a,
      (Becomes.refl ⟨capacity, head, holds⟩).count ⟨0, 0, 1, 0⟩
        fun c => by ext <;> simp [Counters.after]⟩

/-- Taking the oldest record is what `pop?` is on the list, and is not counted. -/
theorem Represents.counts_takeOldest (h : Represents r q) :
    (∃ s a q', q.pop? = some (a, q') ∧ r.takeOldest = (s, .taken a) ∧ Becomes r 0 q' s) ∨
    (q.pop? = none ∧ r.takeOldest = (r, .empty)) := by
  obtain ⟨capacity, items⟩ := q
  obtain ⟨same, head, holds⟩ := h
  cases items with
  | nil => exact .inr ⟨rfl, holds.takeOldest_of_nil⟩
  | cons a items =>
      exact .inl ⟨_, a, ⟨capacity, items⟩, rfl, holds.takeOldest_of_cons,
        ⟨same, head + 1, holds.dropOldest⟩, rfl,
        (Becomes.refl ⟨same, head, holds⟩).counters⟩

/-! ## Pushes of a callback -/

theorem Represents.pushAll (h : Represents r q) (records : List α) :
    (r.pushAll records).2 = (q.pushAll records).2 ∧
    Becomes r ⟨(q.pushAll records).2.count true, 0, (q.pushAll records).2.count false, 0⟩
      (q.pushAll records).1 (r.pushAll records).1 := by
  induction records generalizing r q with
  | nil => exact ⟨rfl, Becomes.refl h⟩
  | cons a records ih =>
      rcases h.counts_tryPush a with ⟨s, q', fits, tried, becomes⟩ | ⟨s, full, tried, becomes⟩
      · obtain ⟨answers, rest⟩ := ih becomes.represents
        simp only [Ring.pushAll, Ring.push, tried, Queue.pushAll, fits, answers]
        refine ⟨trivial, (becomes.trans rest).congr ?_ rfl ?_ rfl⟩
        · simp [Nat.add_comm]
        · simp
      · obtain ⟨answers, rest⟩ := ih becomes.represents
        simp only [Ring.pushAll, Ring.push, tried, Queue.pushAll, full, answers]
        refine ⟨trivial, (becomes.trans rest).congr ?_ rfl ?_ rfl⟩
        · simp
        · simp [Nat.add_comm]

/-! ## Evicting -/

/-- What an evicting push counts: what was stored, and for each evicted record the attempt that
found no room for it. -/
def tallyOfEviction (d : Queue.Eviction α) : Tally where
  pushed := d.accepted.count true + if d.ending = .returned then 1 else 0
  popped := 0
  rejected := d.accepted.count false + d.evicted.length
  evicted := d.evicted.length

/-- An evicting push on `r` goes as one on a list goes. -/
structure Eviction.Follows (e : Eviction α) (r : Ring α) (d : Queue.Eviction α) : Prop where
  evicted : e.evicted = d.evicted
  accepted : e.accepted = d.accepted
  ending : e.ending = d.ending
  becomes : Becomes r (tallyOfEviction d) d.queue e.ring

/-- The eviction of the oldest record of a full ring, with what the callback pushes for it. -/
theorem Represents.evictOne (h : Represents r q) {a : α} (full : q.push? a = none)
    (records : List α) :
    ∃ s s' old q', r.tryPush a = (s, .refused a) ∧ s.takeOldest = (s', .taken old) ∧
      q.pop? = some (old, q') ∧
      (s'.countEvicted.pushAll records).2 = (q'.pushAll records).2 ∧
      Becomes r ⟨(q'.pushAll records).2.count true, 0, (q'.pushAll records).2.count false + 1, 1⟩
        (q'.pushAll records).1 (s'.countEvicted.pushAll records).1 := by
  rcases h.counts_tryPush a with ⟨s, q', fits, -, -⟩ | ⟨s, -, tried, refused⟩
  · rw [full] at fits
    cases fits
  · rcases refused.represents.counts_takeOldest with ⟨s', old, q', popped, took, taken⟩ | ⟨empty, -⟩
    · have counted : Becomes r (⟨0, 0, 1, 0⟩ + 0 + ⟨0, 0, 0, 1⟩) q' s'.countEvicted :=
        (refused.trans taken).count _ fun c => by ext <;> simp [Counters.after]
      obtain ⟨answers, pushed⟩ := counted.represents.pushAll records
      refine ⟨s, s', old, q', tried, took, popped, answers,
        (counted.trans pushed).congr ?_ rfl ?_ rfl⟩
      · simp
      · simp [Nat.add_comm]
    · -- a full queue holds a record
      obtain ⟨old, rest, here⟩ := h.withinBounds.exists_cons full
      rw [Queue.pop?_eq_none_iff, here] at empty
      cases empty

theorem Represents.evictRounds_of_room (h : Represents r q) {a : α} {q' : Queue α}
    (fits : q.push? a = some q') (rounds : Nat) (reactions : List (Reaction α)) :
    (Ring.evictRounds a (rounds + 1) r reactions).Follows r ⟨q', [], [], .returned⟩ := by
  rcases h.counts_tryPush a with ⟨s, q'', fits', tried, becomes⟩ | ⟨-, full, -, -⟩
  · obtain rfl : q' = q'' := Option.some.inj (fits.symm.trans fits')
    rw [evictRounds_succ, tried]
    exact ⟨rfl, rfl, rfl, becomes⟩
  · rw [fits] at full
    cases full

/-- One eviction, and then the rest of the push. -/
theorem Eviction.Follows.evict {e : Eviction α} {d : Queue.Eviction α} (old : α)
    {accepted : List Bool} (rest : e.Follows s d)
    (first : Becomes r ⟨accepted.count true, 0, accepted.count false + 1, 1⟩ q s) :
    Follows { e with evicted := old :: e.evicted, accepted := accepted ++ e.accepted } r
      { d with evicted := old :: d.evicted, accepted := accepted ++ d.accepted } where
  evicted := congrArg (old :: ·) rest.evicted
  accepted := congrArg (accepted ++ ·) rest.accepted
  ending := rest.ending
  becomes := by
    refine (first.trans rest.becomes).congr ?_ rfl ?_ ?_
    · simp [tallyOfEviction, Nat.add_assoc]
    · simp [tallyOfEviction]
      omega
    · simp [tallyOfEviction, Nat.add_comm]

/-- An evicting push does to the ring what `displace` does to the list, and comes to its end. -/
theorem Represents.displace (h : Represents r q) (a : α) (reactions : List (Reaction α)) :
    (r.pushEvicting a reactions).Follows r (q.displace a reactions) := by
  unfold Ring.pushEvicting
  induction reactions generalizing r q with
  | nil =>
      cases fits : q.push? a with
      | some q' =>
          rw [Queue.displace, Queue.pushEvicting_of_room fits]
          exact h.evictRounds_of_room fits 1 []
      | none =>
          obtain ⟨s, s', old, q', tried, took, popped, -, becomes⟩ := h.evictOne fits []
          obtain ⟨here, capacity⟩ := Queue.pop?_eq_some_iff.1 popped
          have room := h.withinBounds.push_rest (a := a) here
          rw [← capacity] at room
          have stored := becomes.represents.evictRounds_of_room room 0 []
          have both := stored.evict old becomes
          rw [Queue.displace, Queue.pushEvicting_of_full fits here, List.length_nil,
            evictRounds_succ, tried]
          simp only [took, List.headD_nil, Reaction.quiet, Bool.false_eq_true, if_false, ← capacity]
          exact both
  | cons reaction reactions ih =>
      cases fits : q.push? a with
      | some q' =>
          rw [Queue.displace, fits]
          exact h.evictRounds_of_room fits _ _
      | none =>
          obtain ⟨s, s', old, q', tried, took, popped, answers, becomes⟩ :=
            h.evictOne fits reaction.pushes
          rw [List.length_cons, evictRounds_succ, tried]
          simp only [took, Queue.displace, fits, Queue.take_one popped, List.headD_cons, answers]
          split
          · exact ⟨rfl, rfl, rfl, becomes.congr (by simp [tallyOfEviction]) rfl
              (by simp [tallyOfEviction]) rfl⟩
          · exact (ih becomes.represents).evict old becomes

/-! ## Consuming -/

/-- What rounds of consuming count: what the handler stored and what was refused to it. -/
def tallyOfRounds (d : Queue.Consumption α) : Tally where
  pushed := (answersOf d.deliveries).count true
  popped := 0
  rejected := (answersOf d.deliveries).count false
  evicted := 0

/-- What a bulk consumption counts: the records are counted together at its end, so a panic leaves
them out. -/
def tallyOfConsumption (d : Queue.Consumption α) : Tally :=
  { tallyOfRounds d with popped := if d.ending = .returned then d.deliveries.length else 0 }

/-- A bulk consumption on a ring goes as one on a list goes. -/
structure Consumption.Follows (c : Consumption α) (r : Ring α) (t : Tally)
    (d : Queue.Consumption α) : Prop where
  deliveries : c.deliveries = d.deliveries
  ending : c.ending = d.ending
  becomes : Becomes r t d.queue c.ring

/-- The length of a ring as the word that a callback reads. -/
theorem Represents.length_eq (h : Represents r q) : r.length = q.length.toUInt64 := by
  obtain ⟨-, head, holds⟩ := h
  have small : q.items.length < UInt64.size :=
    Nat.lt_of_le_of_lt holds.bounded r.config.capacity.toNat_lt
  rw [← UInt64.toNat_inj, holds.length_eq]
  exact (UInt64.toNat_ofNat_of_lt' small).symm

theorem Represents.consumeRounds (h : Represents r q) (handler : Nat → α → Reaction α)
    (n k : Nat) :
    (Ring.consumeRounds handler n k r).Follows r (tallyOfRounds (Queue.consumeFrom handler n k q))
      (Queue.consumeFrom handler n k q) := by
  induction n generalizing r q k with
  | zero => exact ⟨rfl, rfl, Becomes.refl h⟩
  | succ n ih =>
      rcases h.counts_takeOldest with ⟨s, item, q', popped, took, taken⟩ | ⟨popped, took⟩
      · have remaining := taken.represents.length_eq
        obtain ⟨answers, pushed⟩ := taken.represents.pushAll (handler k item).pushes
        have first := taken.trans pushed
        simp only [Ring.consumeRounds, took, Queue.consumeFrom, popped, answers, remaining]
        split
        · exact ⟨rfl, rfl, first.congr (by simp [tallyOfRounds, answersOf]) rfl
            (by simp [tallyOfRounds, answersOf]) rfl⟩
        · have rest := ih pushed.represents (k + 1)
          refine ⟨congrArg _ rest.deliveries, rest.ending,
            (first.trans rest.becomes).congr ?_ rfl ?_ rfl⟩
          · simp [tallyOfRounds, answersOf]
          · simp [tallyOfRounds, answersOf]
      · simp only [Ring.consumeRounds, took, Queue.consumeFrom, popped]
        exact ⟨rfl, rfl, Becomes.refl h⟩

/-- A bulk consumption does to the ring what `consume` does to the list, and comes to its end. -/
theorem Represents.consuming (h : Represents r q) (n : Nat) (handler : Nat → α → Reaction α) :
    (r.consume n handler).Follows r (tallyOfConsumption (q.consume n handler))
      (q.consume n handler) := by
  have rounds := h.consumeRounds handler n 0
  unfold Ring.consume Queue.consume
  by_cases returned : (Queue.consumeFrom handler n 0 q).ending = .returned
  · simp only [rounds.ending.trans returned, if_true]
    have counted := rounds.becomes.count (f := fun c =>
        { c with
          popped := c.popped + (Ring.consumeRounds handler n 0 r).deliveries.length.toUInt64 })
      ⟨0, (Ring.consumeRounds handler n 0 r).deliveries.length, 0, 0⟩
      fun c => by ext <;> simp [Counters.after]
    refine ⟨rounds.deliveries, returned.symm, counted.congr rfl ?_ rfl rfl⟩
    simp [tallyOfConsumption, tallyOfRounds, returned, rounds.deliveries]
  · simp only [mt rounds.ending.symm.trans returned, if_false]
    refine ⟨rounds.deliveries, rounds.ending, rounds.becomes.congr rfl ?_ rfl rfl⟩
    simp [tallyOfConsumption, tallyOfRounds, returned]

/-! ## The queue of a ring -/

/-- The record in slot number `i`. -/
def valueIn (r : Ring α) (i : Nat) : Option α :=
  r.slots[i]?.bind (·.value)

/-- The queue that a ring stands for: the records in its slots, from the head on. -/
def queue (r : Ring α) : Queue α where
  capacity := r.config.capacity.toNat
  items := (List.range r.length.toNat).filterMap fun j =>
    r.valueIn (((r.index r.head).toNat + j) % r.config.capacity.toNat)

theorem Holds.valueIn_window {items : List α} {head j : Nat} (h : Holds r items head)
    (within : j < r.config.capacity.toNat) :
    r.valueIn ((head + j) % r.config.capacity.toNat) = items[j]? := by
  rw [valueIn, h.slot j within]
  cases items[j]? <;> rfl

/-- A list is read off its places, and there is nothing behind it. -/
theorem filterMap_getElem?_range {items : List α} {n : Nat} (long : items.length ≤ n) :
    ((List.range n).filterMap fun j => items[j]?) = items := by
  induction items generalizing n with
  | nil => simp
  | cons a items ih =>
      obtain ⟨n, rfl⟩ := Nat.exists_eq_succ_of_ne_zero (Nat.ne_of_gt (Nat.lt_of_lt_of_le
        (Nat.succ_pos _) long))
      rw [List.range_succ_eq_map, List.filterMap_cons, List.filterMap_map]
      exact congrArg (a :: ·) (ih (Nat.le_of_succ_le_succ long))

theorem Represents.queue_eq (h : Represents r q) : r.queue = q := by
  obtain ⟨capacity, items⟩ := q
  obtain ⟨rfl, head, holds⟩ := h
  refine congrArg (Queue.mk r.config.capacity.toNat) ?_
  rw [holds.length_eq]
  refine (List.filterMap_congr fun j within => ?_).trans (filterMap_getElem?_range (Nat.le_refl _))
  rw [holds.head_eq, toNat_index_position r holds.fits, Nat.mod_add_mod]
  exact holds.valueIn_window (Nat.lt_of_lt_of_le (List.mem_range.1 within) holds.bounded)

/-- A ring that one thread can come by stands for its queue, at any moment of a call. -/
theorem Reached.represents {config : Config} (fits : config.Fits) (h : Reached config r) :
    Represents r r.queue ∧ r.config = config := by
  suffices ∃ q, Represents r q ∧ r.config = config by
    obtain ⟨q, represents, same⟩ := this
    exact ⟨represents.queue_eq ▸ represents, same⟩
  induction h with
  | new => exact ⟨_, represents_new config fits, rfl⟩
  | tryPush a _ ih =>
      obtain ⟨q, represents, same⟩ := ih
      rcases represents.counts_tryPush a with ⟨s, q', -, tried, becomes⟩ | ⟨s, -, tried, becomes⟩
      · rw [tried]
        exact ⟨q', becomes.represents, becomes.config.trans same⟩
      · rw [tried]
        exact ⟨q, becomes.represents, becomes.config.trans same⟩
  | takeOldest _ ih =>
      obtain ⟨q, represents, same⟩ := ih
      rcases represents.counts_takeOldest with ⟨s, a, q', -, took, becomes⟩ | ⟨-, took⟩
      · rw [took]
        exact ⟨q', becomes.represents, becomes.config.trans same⟩
      · rw [took]
        exact ⟨q, represents, same⟩
  | count f _ ih =>
      obtain ⟨q, ⟨capacity, head, holds⟩, same⟩ := ih
      refine ⟨q, ⟨?_, head, holds.count f⟩, (count_config _ f).trans same⟩
      rw [count_config]
      exact capacity

end

end Telemetry.Ring
