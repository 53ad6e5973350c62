import Telemetry.Proofs.Ring.Content

set_option autoImplicit false

/-! # What the operations do to the records

One equation for each way an operation of a single thread can go, with the ring it leaves. The
equations name the counts as well, so that facts about the counters need nothing else. -/

namespace Telemetry.Ring

variable {α : Type} {r : Ring α} {items : List α} {head : Nat}

/-! ## Counts -/

@[simp] theorem count_config (r : Ring α) (f : Counters → Counters) :
    (r.count f).config = r.config := by
  unfold count
  split <;> rfl

/-- Counting leaves the records alone. -/
theorem Holds.count (h : Holds r items head) (f : Counters → Counters) :
    Holds (r.count f) items head := by
  unfold Ring.count
  split
  · exact ⟨h.fits, h.bounded, h.head_eq, h.tail_eq, h.slot⟩
  · exact h

/-- Counts a record that was stored. -/
def countPushed (r : Ring α) : Ring α :=
  r.count fun c => { c with pushed := c.pushed + 1 }

/-- Counts an attempt that found the ring full. -/
def countRejected (r : Ring α) : Ring α :=
  r.count fun c => { c with rejected := c.rejected + 1 }

theorem Holds.countPushed (h : Holds r items head) : Holds r.countPushed items head :=
  h.count _

theorem Holds.countRejected (h : Holds r items head) : Holds r.countRejected items head :=
  h.count _

theorem Holds.countEvicted (h : Holds r items head) : Holds r.countEvicted items head :=
  h.count _

theorem Holds.countPopped (h : Holds r items head) (n : UInt64) :
    Holds (r.countPopped n) items head :=
  h.count _

/-- Storing and counting leave the configuration alone. -/
theorem countPushed_put_config (r : Ring α) (a : α) : (r.put a).countPushed.config = r.config :=
  count_config (r.put a) _

/-! ## Attempts -/

theorem Holds.tryPush_of_room (h : Holds r items head)
    (room : items.length < r.config.capacity.toNat) (a : α) :
    r.tryPush a = ((r.put a).countPushed, .stored) := by
  simp only [tryPush, h.solo_push_of_room room]
  rfl

theorem Holds.tryPush_of_full (h : Holds r items head)
    (full : items.length = r.config.capacity.toNat) (a : α) :
    r.tryPush a = (r.countRejected, .refused a) := by
  simp only [tryPush, h.solo_push_of_full full]
  rfl

theorem Holds.takeOldest_of_cons {a : α} (h : Holds r (a :: items) head) :
    r.takeOldest = (r.dropOldest, .taken a) := by
  simp only [takeOldest, h.solo_pop_of_cons]

theorem Holds.takeOldest_of_nil (h : Holds r [] head) : r.takeOldest = (r, .empty) := by
  simp only [takeOldest, h.solo_pop_of_nil]

/-! ## Evicting -/

/-- The ring behind the eviction of its oldest record, before the record it makes room for. -/
def evictOldest (r : Ring α) : Ring α :=
  r.countRejected.dropOldest.countEvicted

@[simp] theorem evictOldest_config (r : Ring α) : r.evictOldest.config = r.config := by
  rw [Ring.evictOldest, countEvicted, count_config]
  exact count_config r _

theorem Holds.evictOldest {a : α} (h : Holds r (a :: items) head) :
    Holds r.evictOldest items (head + 1) := by
  have := h.countRejected.dropOldest.count fun c => { c with evicted := c.evicted + 1 }
  exact this

/-- One round of an evicting push. -/
theorem evictRounds_succ (a : α) (rounds : Nat) (r : Ring α) (reactions : List (Reaction α)) :
    evictRounds a (rounds + 1) r reactions
      = match r.tryPush a with
        | (r, .stored) => ⟨r, [], [], .returned⟩
        | (r, .unsettled) => ⟨r, [], [], .unsettled⟩
        | (r, .refused a) =>
          match r.takeOldest with
          | (r, .unsettled) => ⟨r, [], [], .unsettled⟩
          | (r, .empty) => evictRounds a rounds r reactions
          | (r, .taken oldest) =>
            let r := r.countEvicted
            let reaction := reactions.headD Reaction.quiet
            let (r, accepted) := r.pushAll reaction.pushes
            if reaction.panics then ⟨r, [oldest], accepted, .panicked⟩
            else
              let e := evictRounds a rounds r reactions.tail
              { e with evicted := oldest :: e.evicted, accepted := accepted ++ e.accepted } := by
  delta evictRounds
  rfl

theorem Holds.evictRounds_of_room (h : Holds r items head)
    (room : items.length < r.config.capacity.toNat) (a : α) (rounds : Nat)
    (reactions : List (Reaction α)) :
    evictRounds a (rounds + 1) r reactions = ⟨(r.put a).countPushed, [], [], .returned⟩ := by
  rw [evictRounds_succ, h.tryPush_of_room room]

theorem Holds.pushEvicting_of_room (h : Holds r items head)
    (room : items.length < r.config.capacity.toNat) (a : α) :
    r.pushEvicting a [] = ⟨(r.put a).countPushed, [], [], .returned⟩ :=
  h.evictRounds_of_room room a 1 []

/-- A full ring lets go of its oldest record, once, and then has room. -/
theorem Holds.pushEvicting_of_full {old : α} (h : Holds r (old :: items) head)
    (full : (old :: items).length = r.config.capacity.toNat) (a : α) :
    r.pushEvicting a [] = ⟨(r.evictOldest.put a).countPushed, [old], [], .returned⟩ := by
  have room : items.length < r.evictOldest.config.capacity.toNat := by
    rw [evictOldest_config, ← full, List.length_cons]
    exact Nat.lt_succ_self _
  have hstore := h.evictOldest.evictRounds_of_room room a 0 []
  change evictRounds a (1 + 1) r [] = _
  rw [evictRounds_succ, h.tryPush_of_full full]
  simp only [h.countRejected.takeOldest_of_cons, List.headD_nil, Reaction.quiet, pushAll,
    List.tail_nil, Bool.false_eq_true, if_false, List.nil_append]
  rw [Ring.evictOldest] at hstore
  rw [hstore]
  rfl

/-! ## Consuming -/

/-- A handler that only collects. -/
def collect : Nat → α → Reaction α :=
  fun _ _ => Reaction.quiet

/-- Rounds of consuming hand out the oldest records in order, as many as there are. -/
theorem Holds.consumeRounds_collect (n : Nat) (k : Nat) (h : Holds r items head) :
    (consumeRounds collect n k r).ending = .returned ∧
    (consumeRounds collect n k r).deliveries.map (·.item) = items.take n ∧
    (consumeRounds collect n k r).ring.config = r.config ∧
    ∃ head', Holds (consumeRounds collect n k r).ring (items.drop n) head' := by
  -- The records in the ring get fewer with each round, so ring and records both vary.
  induction n generalizing k r items head with
  | zero => exact ⟨rfl, by simp [consumeRounds], rfl, head, by simpa [consumeRounds] using h⟩
  | succ n ih =>
      cases items with
      | nil =>
          have hstop : consumeRounds collect (n + 1) k r = ⟨r, [], .returned⟩ := by
            simp only [consumeRounds, h.takeOldest_of_nil]
          rw [hstop]
          exact ⟨rfl, rfl, rfl, head, h⟩
      | cons a items =>
          have hnext := h.dropOldest
          obtain ⟨hending, hitems, hconfig, head', hholds⟩ := ih (k + 1) hnext
          simp only [consumeRounds, h.takeOldest_of_cons, collect, Reaction.quiet, pushAll,
            Bool.false_eq_true, if_false]
          refine ⟨hending, ?_, hconfig, head', hholds⟩
          rw [List.map_cons, List.take_succ_cons]
          exact congrArg (a :: ·) hitems

theorem Holds.consume_collect (h : Holds r items head) (n : Nat) :
    (r.consume n collect).ending = .returned ∧
    (r.consume n collect).deliveries.map (·.item) = items.take n ∧
    (r.consume n collect).ring.config = r.config ∧
    ∃ head', Holds (r.consume n collect).ring (items.drop n) head' := by
  obtain ⟨hending, hitems, hconfig, head', hholds⟩ := h.consumeRounds_collect n 0
  simp only [consume, hending, if_true]
  refine ⟨trivial, hitems, ?_, head', hholds.count _⟩
  rw [Ring.countPopped, count_config, hconfig]

end Telemetry.Ring
