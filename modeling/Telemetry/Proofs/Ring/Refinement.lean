import Telemetry.Proofs.Queue
import Telemetry.Proofs.Ring.Operations

set_option autoImplicit false

/-! # A ring is a bounded queue

One thread calls the operations of a ring in any order, with callbacks that only collect what they
are handed. Whatever it can observe, the answers, the records handed to callbacks in their order,
how each call ended and the status afterwards, is what a bounded list shows. -/

namespace Telemetry

/-! ## Calls and what they show -/

/-- A call of one thread on a bounded queue. -/
inductive Ring.Call (α : Type) where
  | tryPush (a : α)
  | push (a : α)
  | offer (a : α)
  | pushEvicting (a : α)
  | pop
  | consume (n : Nat)
  | consumeAll

/-- What a call returns. -/
inductive Ring.Answer (α : Type) where
  | tried (p : Ring.Push α)
  | pushed (stored : Bool)
  | offered (queued : Bool)
  | evicting
  | popped (p : Ring.Pop α)
  | consumed (count : Nat)

/-- The length and the two tests. -/
structure Ring.Status where
  length : Nat
  isEmpty : Bool
  isFull : Bool

/-- Everything that can be observed of a call: its answer, the records handed to its callback, how
it ended, and the status behind it. -/
structure Ring.Observation (α : Type) where
  answer : Ring.Answer α
  handed : List α
  ending : Ring.Ending
  status : Ring.Status

namespace Ring

variable {α : Type}

def status (r : Ring α) : Status :=
  ⟨r.length.toNat, r.isEmpty, r.isFull⟩

/-- Whether an attempt to store came to its end. -/
def Push.ending : Push α → Ending
  | .unsettled => .unsettled
  | _ => .returned

/-- Whether an attempt to take came to its end. -/
def Pop.ending : Pop α → Ending
  | .unsettled => .unsettled
  | _ => .returned

/-- How an offer ended, with a callback that only collects. -/
def offerEnding (r : Ring α) (a : α) : Ending :=
  match r.config.overflow with
  | .dropNewest => (r.tryPush a).2.ending
  | .dropOldest => (r.pushEvicting a []).ending

/-- One call on a ring. -/
def perform (r : Ring α) : Call α → Ring α × Observation α
  | .tryPush a =>
    let (s, p) := r.tryPush a
    (s, ⟨.tried p, [], p.ending, s.status⟩)
  | .push a =>
    let (s, stored) := r.push a
    (s, ⟨.pushed stored, [], (r.tryPush a).2.ending, s.status⟩)
  | .offer a =>
    let o := r.offer a
    (o.ring, ⟨.offered o.queued, o.dropped, r.offerEnding a, o.ring.status⟩)
  | .pushEvicting a =>
    let e := r.pushEvicting a []
    (e.ring, ⟨.evicting, e.evicted, e.ending, e.ring.status⟩)
  | .pop =>
    let (s, p) := r.pop
    (s, ⟨.popped p, [], p.ending, s.status⟩)
  | .consume n =>
    let c := r.consume n collect
    (c.ring, ⟨.consumed c.deliveries.length, c.deliveries.map (·.item), c.ending, c.ring.status⟩)
  | .consumeAll =>
    let c := r.consumeAll collect
    (c.ring, ⟨.consumed c.deliveries.length, c.deliveries.map (·.item), c.ending, c.ring.status⟩)

/-- Calls one after the other, with what each shows. -/
def performAll : Ring α → List (Call α) → Ring α × List (Observation α)
  | r, [] => (r, [])
  | r, call :: rest =>
    let (s, o) := r.perform call
    let (t, os) := s.performAll rest
    (t, o :: os)

end Ring

namespace Queue

variable {α : Type}

def status (q : Queue α) : Ring.Status :=
  ⟨q.length, q.items.isEmpty, q.isFull⟩

/-- One call on a bounded list. A full list refuses the record, or lets go of its oldest one; every
call ends. -/
def perform (policy : OverflowPolicy) (q : Queue α) : Ring.Call α → Queue α × Ring.Observation α
  | .tryPush a =>
    match q.push? a with
    | some q' => (q', ⟨.tried .stored, [], .returned, q'.status⟩)
    | none => (q, ⟨.tried (.refused a), [], .returned, q.status⟩)
  | .push a =>
    match q.push? a with
    | some q' => (q', ⟨.pushed true, [], .returned, q'.status⟩)
    | none => (q, ⟨.pushed false, [], .returned, q.status⟩)
  | .offer a =>
    match policy, q.push? a with
    | .dropNewest, some q' => (q', ⟨.offered true, [], .returned, q'.status⟩)
    | .dropNewest, none => (q, ⟨.offered false, [a], .returned, q.status⟩)
    | .dropOldest, _ =>
      let (old, q') := q.pushEvicting a
      (q', ⟨.offered true, old, .returned, q'.status⟩)
  | .pushEvicting a =>
    let (old, q') := q.pushEvicting a
    (q', ⟨.evicting, old, .returned, q'.status⟩)
  | .pop =>
    match q.pop? with
    | some (a, q') => (q', ⟨.popped (.taken a), [], .returned, q'.status⟩)
    | none => (q, ⟨.popped .empty, [], .returned, q.status⟩)
  | .consume n =>
    let (taken, q') := q.take n
    (q', ⟨.consumed taken.length, taken, .returned, q'.status⟩)
  | .consumeAll =>
    let (taken, q') := q.take q.capacity
    (q', ⟨.consumed taken.length, taken, .returned, q'.status⟩)

/-- Calls one after the other, with what each shows. -/
def performAll (policy : OverflowPolicy) : Queue α → List (Ring.Call α) →
    Queue α × List (Ring.Observation α)
  | q, [] => (q, [])
  | q, call :: rest =>
    let (q', o) := q.perform policy call
    let (q'', os) := q'.performAll policy rest
    (q'', o :: os)

end Queue

/-! ## The ring stands for the list -/

namespace Ring

variable {α : Type} {r : Ring α} {q : Queue α}

/-- The ring holds the records of the queue, and has room for as many. -/
def Represents (r : Ring α) (q : Queue α) : Prop :=
  q.capacity = r.config.capacity.toNat ∧ ∃ head, Holds r q.items head

/-- An operation that leaves the ring with other records and the same configuration. -/
theorem Represents.of_holds (h : Represents r q) {s : Ring α} {items : List α} {head : Nat}
    (config : s.config = r.config) (holds : Holds s items head) :
    Represents s ⟨q.capacity, items⟩ :=
  ⟨h.1.trans (congrArg (·.capacity.toNat) config.symm), head, holds⟩

/-- The status of a ring is the status of the list it stands for. -/
theorem Represents.status_eq (h : Represents r q) : r.status = q.status := by
  obtain ⟨hcapacity, head, hholds⟩ := h
  rw [Ring.status, Queue.status, hholds.length_eq, hholds.isEmpty_eq, hholds.isFull_eq,
    Queue.isFull, hcapacity]
  rfl

/-- An attempt to store does to the ring what `push?` does to the list. -/
theorem Represents.tryPush_cases (h : Represents r q) (a : α) :
    (∃ s q', q.push? a = some q' ∧ r.tryPush a = (s, .stored) ∧ Represents s q' ∧
      s.config = r.config) ∨
    (∃ s, q.push? a = none ∧ r.tryPush a = (s, .refused a) ∧ Represents s q ∧
      s.config = r.config) := by
  have ⟨hcapacity, head, hholds⟩ := h
  rcases Nat.lt_or_ge q.items.length r.config.capacity.toNat with room | hge
  · have hconfig := countPushed_put_config r a
    exact Or.inl ⟨_, _, Queue.push?_eq_some_iff.2 ⟨hcapacity ▸ room, rfl⟩,
      hholds.tryPush_of_room room a, h.of_holds hconfig (hholds.put room a).countPushed, hconfig⟩
  · have full := Nat.le_antisymm hholds.bounded hge
    have hconfig : r.countRejected.config = r.config := count_config _ _
    exact Or.inr ⟨_, Queue.push?_eq_none_iff.2 (hcapacity ▸ hge), hholds.tryPush_of_full full a,
      h.of_holds hconfig hholds.countRejected, hconfig⟩

/-- An evicting push does to the ring what `pushEvicting` does to the list, and ends. -/
theorem Represents.pushEvicting (h : Represents r q) (a : α) :
    ∃ s, r.pushEvicting a [] = ⟨s, (q.pushEvicting a).1, [], .returned⟩ ∧
      Represents s (q.pushEvicting a).2 ∧ s.config = r.config := by
  obtain ⟨hcapacity, head, hholds⟩ := h
  obtain ⟨capacity, items⟩ := q
  simp only at hcapacity hholds
  subst hcapacity
  rcases Nat.lt_or_ge items.length r.config.capacity.toNat with room | hge
  · have hconfig := countPushed_put_config r a
    have hqueue : Queue.pushEvicting ⟨r.config.capacity.toNat, items⟩ a
        = ([], ⟨r.config.capacity.toNat, items ++ [a]⟩) := by
      rw [Queue.pushEvicting, if_neg (by simpa [Queue.isFull_iff, Queue.length] using room)]
    rw [hqueue]
    exact ⟨_, hholds.pushEvicting_of_room room a,
      ⟨(congrArg (·.capacity.toNat) hconfig).symm, head, (hholds.put room a).count _⟩, hconfig⟩
  · have full := Nat.le_antisymm hholds.bounded hge
    have hpos := r.config.capacity_toNat_pos
    cases items with
    | nil =>
        -- A ring has at least one slot, so a full one holds a record.
        rw [List.length_nil] at full
        omega
    | cons old items =>
        have hconfig : (r.evictOldest.put a).countPushed.config = r.config := by
          rw [countPushed_put_config, evictOldest_config]
        have hqueue : Queue.pushEvicting ⟨r.config.capacity.toNat, old :: items⟩ a
            = ([old], ⟨r.config.capacity.toNat, items ++ [a]⟩) := by
          rw [Queue.pushEvicting, if_pos (Queue.isFull_iff.2 hge)]
          rfl
        have room : items.length < r.evictOldest.config.capacity.toNat := by
          rw [evictOldest_config, ← full, List.length_cons]
          exact Nat.lt_succ_self _
        rw [hqueue]
        exact ⟨_, hholds.pushEvicting_of_full full a,
          ⟨(congrArg (·.capacity.toNat) hconfig).symm, head + 1,
            (hholds.evictOldest.put room a).count _⟩, hconfig⟩

/-- Taking does to the ring what `pop?` does to the list. -/
theorem Represents.pop_cases (h : Represents r q) :
    (∃ s a q', q.pop? = some (a, q') ∧ r.pop = (s, .taken a) ∧ Represents s q' ∧
      s.config = r.config) ∨
    (q.pop? = none ∧ r.pop = (r, .empty)) := by
  obtain ⟨hcapacity, head, hholds⟩ := h
  obtain ⟨capacity, items⟩ := q
  cases items with
  | nil => exact Or.inr ⟨rfl, by simp only [pop, hholds.takeOldest_of_nil]⟩
  | cons a items =>
      have hconfig : (r.dropOldest.countPopped 1).config = r.config := by
        rw [countPopped, count_config]
        rfl
      exact Or.inl ⟨_, a, ⟨capacity, items⟩, rfl, by simp only [pop, hholds.takeOldest_of_cons],
        ⟨hcapacity.trans (congrArg (·.capacity.toNat) hconfig.symm), head + 1,
          hholds.dropOldest.count _⟩, hconfig⟩

/-- Consuming does to the ring what `take` does to the list, and ends. -/
theorem Represents.consume (h : Represents r q) (n : Nat) :
    ((r.consume n collect).deliveries.map (·.item) = (q.take n).1 ∧
      (r.consume n collect).ending = .returned) ∧
    Represents (r.consume n collect).ring (q.take n).2 ∧
    (r.consume n collect).ring.config = r.config := by
  obtain ⟨hcapacity, head, hholds⟩ := h
  obtain ⟨hending, hitems, hconfig, head', hrest⟩ := hholds.consume_collect n
  exact ⟨⟨hitems, hending⟩,
    ⟨hcapacity.trans (congrArg (·.capacity.toNat) hconfig.symm), head', hrest⟩, hconfig⟩

/-- One call shows the same on the ring as on the list, and leaves the one standing for the
other. -/
theorem Represents.perform (h : Represents r q) (call : Call α) :
    (r.perform call).2 = (q.perform r.config.overflow call).2 ∧
    Represents (r.perform call).1 (q.perform r.config.overflow call).1 ∧
    (r.perform call).1.config = r.config := by
  cases call with
  | tryPush a =>
      rcases h.tryPush_cases a with ⟨s, q', hq, hr, hs, hconfig⟩ | ⟨s, hq, hr, hs, hconfig⟩
      · simp only [Ring.perform, Queue.perform, hq, hr, hs.status_eq]
        exact ⟨rfl, hs, hconfig⟩
      · simp only [Ring.perform, Queue.perform, hq, hr, hs.status_eq]
        exact ⟨rfl, hs, hconfig⟩
  | push a =>
      rcases h.tryPush_cases a with ⟨s, q', hq, hr, hs, hconfig⟩ | ⟨s, hq, hr, hs, hconfig⟩
      · simp only [Ring.perform, Ring.push, Queue.perform, hq, hr, hs.status_eq]
        exact ⟨rfl, hs, hconfig⟩
      · simp only [Ring.perform, Ring.push, Queue.perform, hq, hr, hs.status_eq]
        exact ⟨rfl, hs, hconfig⟩
  | offer a =>
      cases hpolicy : r.config.overflow with
      | dropNewest =>
          rcases h.tryPush_cases a with ⟨s, q', hq, hr, hs, hconfig⟩ | ⟨s, hq, hr, hs, hconfig⟩
          · simp only [Ring.perform, Ring.offer, offerEnding, Queue.perform, hpolicy, hq, hr,
              hs.status_eq]
            exact ⟨rfl, hs, hconfig⟩
          · simp only [Ring.perform, Ring.offer, offerEnding, Queue.perform, hpolicy, hq, hr,
              hs.status_eq]
            exact ⟨rfl, hs, hconfig⟩
      | dropOldest =>
          obtain ⟨s, hr, hs, hconfig⟩ := h.pushEvicting a
          simp only [Ring.perform, Ring.offer, offerEnding, Queue.perform, hpolicy, hr,
            hs.status_eq]
          exact ⟨trivial, hs, hconfig⟩
  | pushEvicting a =>
      obtain ⟨s, hr, hs, hconfig⟩ := h.pushEvicting a
      simp only [Ring.perform, Queue.perform, hr, hs.status_eq]
      exact ⟨trivial, hs, hconfig⟩
  | pop =>
      rcases h.pop_cases with ⟨s, a, q', hq, hr, hs, hconfig⟩ | ⟨hq, hr⟩
      · simp only [Ring.perform, Queue.perform, hq, hr, hs.status_eq]
        exact ⟨rfl, hs, hconfig⟩
      · simp only [Ring.perform, Queue.perform, hq, hr, h.status_eq]
        exact ⟨rfl, h, trivial⟩
  | consume n =>
      obtain ⟨⟨hitems, hending⟩, hs, hconfig⟩ := h.consume n
      have hcount := congrArg List.length hitems
      rw [List.length_map] at hcount
      simp only [Ring.perform, Queue.perform, hitems, hending, hcount, hs.status_eq]
      exact ⟨trivial, hs, hconfig⟩
  | consumeAll =>
      obtain ⟨⟨hitems, hending⟩, hs, hconfig⟩ := h.consume r.config.capacity.toNat
      have hcount := congrArg List.length hitems
      rw [List.length_map] at hcount
      simp only [Ring.perform, consumeAll, Queue.perform, h.1, hitems, hending, hcount,
        hs.status_eq]
      exact ⟨trivial, hs, hconfig⟩

/-- Any number of calls show the same on the ring as on the list. -/
theorem Represents.performAll (h : Represents r q) (calls : List (Call α)) :
    (r.performAll calls).2 = (q.performAll r.config.overflow calls).2 := by
  induction calls generalizing r q with
  | nil => rfl
  | cons call rest ih =>
      obtain ⟨hshown, hnext, hconfig⟩ := h.perform call
      have hrest := ih hnext
      rw [hconfig] at hrest
      simp only [Ring.performAll, Queue.performAll, hshown, hrest]

theorem represents_new (config : Config) (fits : config.Fits) :
    Represents (Ring.new config : Ring α) (Queue.empty config.capacity.toNat) :=
  ⟨rfl, 0, holds_new config fits⟩

/-! ## No operation starts again -/

/-- Rings that a single thread can come by, those in the middle of a call included: all operations
are made of attempts to store, attempts to take, and counting. -/
inductive Reached (config : Config) : Ring α → Prop where
  | new : Reached config (Ring.new config)
  | tryPush {r : Ring α} (a : α) : Reached config r → Reached config (r.tryPush a).1
  | takeOldest {r : Ring α} : Reached config r → Reached config r.takeOldest.1
  | count {r : Ring α} (f : Counters → Counters) : Reached config r → Reached config (r.count f)

theorem Reached.holds {config : Config} (fits : config.Fits) (h : Reached config r) :
    ∃ items head, Holds r items head := by
  induction h with
  | new => exact ⟨[], 0, holds_new config fits⟩
  | tryPush a _ ih =>
      obtain ⟨items, head, hholds⟩ := ih
      rcases Nat.lt_or_ge items.length _ with room | hge
      · rw [hholds.tryPush_of_room room]
        exact ⟨_, head, (hholds.put room a).countPushed⟩
      · rw [hholds.tryPush_of_full (Nat.le_antisymm hholds.bounded hge)]
        exact ⟨items, head, hholds.countRejected⟩
  | takeOldest _ ih =>
      obtain ⟨items, head, hholds⟩ := ih
      cases items with
      | nil =>
          rw [hholds.takeOldest_of_nil]
          exact ⟨[], head, hholds⟩
      | cons a items =>
          rw [hholds.takeOldest_of_cons]
          exact ⟨items, head + 1, hholds.dropOldest⟩
  | count f _ ih =>
      obtain ⟨items, head, hholds⟩ := ih
      exact ⟨items, head, hholds.count f⟩

theorem Reached.countPopped {config : Config} (h : Reached config r) (n : UInt64) :
    Reached config (r.countPopped n) :=
  h.count _

theorem push_fst (r : Ring α) (a : α) : (r.push a).1 = (r.tryPush a).1 := by
  unfold push
  split
  · rename_i tried
    rw [tried]
  · rename_i tried
    rw [tried]

theorem Reached.pushAll {config : Config} (h : Reached config r) (records : List α) :
    Reached config (r.pushAll records).1 := by
  induction records generalizing r with
  | nil => exact h
  | cons a records ih =>
      have pushed := h.tryPush a
      rw [← push_fst] at pushed
      exact ih pushed

theorem Reached.evictRounds {config : Config} (h : Reached config r) (a : α) (rounds : Nat)
    (reactions : List (Reaction α)) : Reached config (evictRounds a rounds r reactions).ring := by
  induction rounds generalizing r a reactions with
  | zero => exact h
  | succ rounds ih =>
      -- A round stores, or takes the oldest record, lets the callback push, and goes on.
      have pushed := h.tryPush a
      rw [evictRounds_succ]
      split
      · rename_i s tried
        rw [tried] at pushed
        exact pushed
      · rename_i s tried
        rw [tried] at pushed
        exact pushed
      · rename_i s a tried
        rw [tried] at pushed
        have taken := pushed.takeOldest
        split
        · rename_i t taking
          rw [taking] at taken
          exact taken
        · rename_i t taking
          rw [taking] at taken
          exact ih taken a reactions
        · rename_i t old taking
          rw [taking] at taken
          have reacted :=
            (taken.count fun c => { c with evicted := c.evicted + 1 }).pushAll
              (reactions.headD Reaction.quiet).pushes
          dsimp only
          split
          · exact reacted
          · exact ih reacted a reactions.tail

theorem Reached.consumeRounds {config : Config} (h : Reached config r)
    (handler : Nat → α → Reaction α) (n k : Nat) :
    Reached config (consumeRounds handler n k r).ring := by
  induction n generalizing k r with
  | zero => exact h
  | succ n ih =>
      have taken := h.takeOldest
      unfold Ring.consumeRounds
      split
      · rename_i s taking
        rw [taking] at taken
        exact taken
      · rename_i s taking
        rw [taking] at taken
        exact taken
      · rename_i s a taking
        rw [taking] at taken
        have reacted := taken.pushAll (handler k a).pushes
        dsimp only
        split
        · exact reacted
        · exact ih reacted (k + 1)

theorem Reached.consume {config : Config} (h : Reached config r) (n : Nat)
    (handler : Nat → α → Reaction α) : Reached config (r.consume n handler).ring := by
  have rounds := h.consumeRounds handler n 0
  simp only [Ring.consume]
  split
  · exact rounds.countPopped _
  · exact rounds

theorem offer_ring_of_dropNewest (policy : r.config.overflow = .dropNewest) (a : α) :
    (r.offer a).ring = (r.tryPush a).1 := by
  simp only [offer, policy]
  split
  · rename_i tried
    rw [tried]
  · rename_i tried
    rw [tried]
  · rename_i tried
    rw [tried]

theorem offer_ring_of_dropOldest (policy : r.config.overflow = .dropOldest) (a : α) :
    (r.offer a).ring = (r.pushEvicting a []).ring := by
  simp only [offer, policy]

/-- A call is made of attempts on rings that a single thread can come by. -/
theorem Reached.perform {config : Config} (h : Reached config r) (call : Call α) :
    Reached config (r.perform call).1 := by
  cases call with
  | tryPush a => exact h.tryPush a
  | push a =>
      show Reached config (r.push a).1
      rw [push_fst]
      exact h.tryPush a
  | offer a =>
      show Reached config (r.offer a).ring
      cases policy : r.config.overflow with
      | dropNewest =>
          rw [offer_ring_of_dropNewest policy]
          exact h.tryPush a
      | dropOldest =>
          rw [offer_ring_of_dropOldest policy]
          exact h.evictRounds a 2 []
  | pushEvicting a => exact h.evictRounds a 2 []
  | pop =>
      have taken := h.takeOldest
      show Reached config r.pop.1
      unfold Ring.pop
      split
      · rename_i s a taking
        rw [taking] at taken
        exact taken.countPopped 1
      · rename_i s p _ taking
        rw [taking] at taken
        exact taken
  | consume n => exact h.consume n collect
  | consumeAll => exact h.consume _ collect

theorem Reached.performAll {config : Config} (h : Reached config r) (calls : List (Call α)) :
    Reached config (r.performAll calls).1 := by
  induction calls generalizing r with
  | nil => exact h
  | cons call rest ih => exact ih (h.perform call)

/-! ## The refinement -/

/-- **A ring is a bounded first-in, first-out queue.** For every capacity whose lap is below 2^64
and both policies, any number of calls of one thread on a new ring show what they show on a bounded
list: the same answers, the same records in the same order to callbacks, the same status after
every call, and every call ends. The calls lead only to rings that attempts and counts lead to, and
on those no attempt starts again, even when the words of head, tail and stamps have wrapped
around. -/
theorem ring_performs_as_queue (config : Config) (fits : config.capacity.toNat + 1 ≤ 2 ^ 63) :
    (∀ calls : List (Call α),
      ((Ring.new config : Ring α).performAll calls).2
        = ((Queue.empty config.capacity.toNat).performAll config.overflow calls).2) ∧
    (∀ calls : List (Call α), Reached config ((Ring.new config : Ring α).performAll calls).1) ∧
    ∀ r : Ring α, Reached config r →
      (∀ a, GoesStraight r (.pushTail a)) ∧ GoesStraight r .popHead ∧
      GoesStraight r .lengthTail := by
  refine ⟨fun calls => (represents_new config fits).performAll calls,
    fun calls => Reached.new.performAll calls, fun r hr => ?_⟩
  obtain ⟨items, head, hholds⟩ := hr.holds fits
  exact ⟨hholds.goesStraight_push, hholds.goesStraight_pop, (goesStraight_length r).2⟩

/-- Three records through a ring of two that drops the oldest. -/
theorem ring_performs_as_queue_of_two :
    (2 : UInt64).toNat + 1 ≤ 2 ^ 63 ∧
    ((Ring.new ⟨2, by decide, .dropOldest, true⟩ : Ring Nat).performAll
        [.offer 1, .offer 2, .offer 3, .consume 5]).2
      = ((Queue.empty 2).performAll .dropOldest [.offer 1, .offer 2, .offer 3, .consume 5]).2 ∧
    GoesStraight ((Ring.new ⟨2, by decide, .dropOldest, true⟩ : Ring Nat).performAll
        [.offer 1, .offer 2, .offer 3, .consume 5]).1 .popHead := by
  obtain ⟨shown, reached, straight⟩ :=
    ring_performs_as_queue (α := Nat) ⟨2, by decide, .dropOldest, true⟩ (by decide)
  exact ⟨by decide, shown [.offer 1, .offer 2, .offer 3, .consume 5],
    (straight _ (reached [.offer 1, .offer 2, .offer 3, .consume 5])).2.1⟩

end Ring

end Telemetry
