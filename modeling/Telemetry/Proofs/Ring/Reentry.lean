import Mathlib.Data.List.DropRight
import Telemetry.Proofs.Ring.Callbacks

set_option autoImplicit false

/-! # Callbacks that refill the ring

A callback may push into the ring that called it. An evicting push then finds the ring full again,
and evicts once more for each record that was pushed; a consumer is handed what was pushed back
behind what was there. Both come to their end, and everybody keeps the place in the line. -/

open Telemetry.Ring (Reaction itemsOf)

namespace Telemetry

namespace Queue

variable {α : Type} {q : Queue α}

/-! ## Evictions that are refilled -/

/-- A callback that pushes the next of `records` at each of its calls. -/
def refilling (records : List α) : List (Reaction α) :=
  records.map fun w => ⟨[w], false⟩

/-- A full queue that is refilled at each eviction lets go of one record for each one that comes
in. -/
theorem WithinBounds.displace_refilling (h : q.WithinBounds) {a : α} (full : q.push? a = none)
    (records : List α) :
    q.displace a (refilling records) =
      ⟨⟨q.capacity, (q.items ++ records ++ [a]).drop (records.length + 1)⟩,
        (q.items ++ records).take (records.length + 1), List.replicate records.length true,
        .returned⟩ := by
  induction records generalizing q with
  | nil =>
      obtain ⟨old, rest, here⟩ := h.exists_cons full
      rw [refilling, List.map_nil, Queue.displace, pushEvicting_of_full full here]
      simp [here]
  | cons w records ih =>
      obtain ⟨old, rest, here⟩ := h.exists_cons full
      have taken := take_one_of_cons here
      -- The callback's push takes the place that was made, and the queue is full again.
      have room := h.push_rest (a := w) here
      have again : (⟨q.capacity, rest ++ [w]⟩ : Queue α).push? a = none := by
        have long := push?_eq_none_iff.1 full
        rw [length_of_cons here] at long
        refine push?_eq_none_iff.2 ?_
        rw [length, List.length_append]
        exact long
      have later := ih ((h.pop here).push room) again
      rw [refilling] at later
      simp only [refilling, List.map_cons, Queue.displace, full, taken, Queue.pushAll, room]
      simp [later, here, List.replicate_succ]

theorem displace_of_room {a : α} {q' : Queue α} (fits : q.push? a = some q')
    (reactions : List (Reaction α)) : q.displace a reactions = ⟨q', [], [], .returned⟩ := by
  cases reactions with
  | nil => rw [displace, pushEvicting_of_room fits]
  | cons reaction reactions => rw [displace, fits]

/-! ## Consumers that are refilled -/

variable {c : Consumption α} {handler : Nat → α → Reaction α} {n k : Nat}

/-- A consumption that may hand out as many records as the queue can hold hands out all that were
there when it began, whatever the handler pushes. -/
theorem Consumption.IsOf.begins (h : c.IsOf q handler n k) (enough : q.length ≤ n)
    (returned : c.ending = .returned) : q.items <+: itemsOf c.deliveries := by
  have front : q.items <+: itemsOf c.deliveries ++ c.queue.items := by
    rw [h.line]
    exact List.prefix_append _ _
  rcases h.stops returned with many | empty
  · refine List.prefix_of_prefix_length_le front (List.prefix_append _ _) ?_
    rw [itemsOf, List.length_map, many]
    exact enough
  · rwa [empty, List.append_nil] at front

end Queue

namespace Ring

variable {α : Type}

/-! ## On a ring -/

/-- **Callbacks that refill the ring keep the line.** On any ring that one thread can come by, of
any capacity that memory has room for, and with the queue that it stands for:

* an evicting push on a full ring, whose callback pushes the next of `records` at each eviction,
  ends. It evicts the first records of the queue followed by `records`, one more than `records` has,
  stores all of `records`, and leaves the last ones of the queue, `records` and the record offered,
  as many as the ring can hold. On a ring with room it evicts nothing and calls nobody;
* a bulk consumption hands out what is handed out by taking one record from a list, running the
  handler on the list, and so on, up to the bound, whatever the handler pushes at its calls, and
  leaves what that leaves;
* a consumption without a bound ends after at most as many records as the ring can hold. If the
  handler does not panic, these begin with all the records that were queued when it was called. -/
theorem reentrant_callbacks_keep_line {config : Config}
    (fits : config.capacity.toNat + 1 ≤ 2 ^ 63) {r : Ring α} (reached : Reached config r) :
    (∀ (a : α) (records : List α),
      (r.pushEvicting a (Queue.refilling records)).ending = .returned ∧
      (r.isFull = true →
        (r.pushEvicting a (Queue.refilling records)).evicted
          = (r.queue.items ++ records).take (records.length + 1) ∧
        (r.pushEvicting a (Queue.refilling records)).accepted
          = List.replicate records.length true ∧
        (r.pushEvicting a (Queue.refilling records)).ring.queue.items
          = (r.queue.items ++ records ++ [a]).rtake config.capacity.toNat) ∧
      (r.isFull = false →
        (r.pushEvicting a (Queue.refilling records)).evicted = [] ∧
        (r.pushEvicting a (Queue.refilling records)).accepted = [] ∧
        (r.pushEvicting a (Queue.refilling records)).ring.queue.items = r.queue.items ++ [a])) ∧
    (∀ (n : Nat) (handler : Nat → α → Reaction α),
      (r.consume n handler).deliveries = (r.queue.consume n handler).deliveries ∧
      (r.consume n handler).ending = (r.queue.consume n handler).ending ∧
      (r.consume n handler).ring.queue = (r.queue.consume n handler).queue) ∧
    (∀ handler : Nat → α → Reaction α,
      (r.consumeAll handler).ending ≠ .unsettled ∧
      (r.consumeAll handler).deliveries.length ≤ config.capacity.toNat ∧
      ((∀ k a, (handler k a).panics = false) →
        (r.consumeAll handler).ending = .returned ∧
        r.queue.items <+: itemsOf (r.consumeAll handler).deliveries)) := by
  obtain ⟨represents, same⟩ := reached.represents fits
  have bounds := represents.withinBounds
  refine ⟨fun a records => ?_, fun n handler => ?_, fun handler => ?_⟩
  · have evicts := represents.displace a (Queue.refilling records)
    have left := evicts.becomes.represents.queue_eq
    rw [evicts.ending, evicts.evicted, evicts.accepted, left, represents.isFull_eq]
    cases fits : r.queue.push? a with
    | none =>
        have full := Queue.push?_eq_none_iff.1 fits
        have exact : r.queue.length = config.capacity.toNat := by
          rw [← same]
          exact Nat.le_antisymm bounds.length_le full
        rw [bounds.displace_refilling fits]
        refine ⟨rfl, fun _ => ⟨rfl, rfl, ?_⟩, fun room => ?_⟩
        · rw [List.rtake, List.length_append, List.length_append, ← Queue.length, exact,
            Nat.add_assoc, Nat.add_sub_cancel_left]
          rfl
        · rw [Queue.isFull_iff.2 full] at room
          cases room
    | some q' =>
        obtain ⟨room, rfl⟩ := Queue.push?_eq_some_iff.1 fits
        rw [Queue.displace_of_room fits]
        refine ⟨rfl, fun full => ?_, fun _ => ⟨rfl, rfl, rfl⟩⟩
        exact absurd (Queue.isFull_iff.1 full) (Nat.not_le.2 room)
  · have consumed := represents.consuming n handler
    exact ⟨consumed.deliveries, consumed.ending, consumed.becomes.represents.queue_eq⟩
  · have consumed := represents.consuming config.capacity.toNat handler
    have facts := bounds.consume config.capacity.toNat handler
    rw [consumeAll, same, consumed.ending, consumed.deliveries]
    refine ⟨?_, facts.few, fun calm => ?_⟩
    · rcases facts.ends with returned | unwound
      · rw [returned]
        decide
      · rw [unwound]
        decide
    · have returned := facts.returned calm
      exact ⟨returned, facts.begins (same ▸ bounds.length_le) returned⟩

/-- A full ring of two records, refilled twice by an eviction callback, and once by a consumer. -/
theorem reentrant_callbacks_keep_line_of_two :
    (2 : UInt64).toNat + 1 ≤ 2 ^ 63 ∧
    ∃ r : Ring Nat, Reached ⟨2, by decide, .dropOldest, true⟩ r ∧ r.isFull = true ∧
      (r.pushEvicting 3 (Queue.refilling [8, 9])).evicted = [1, 2, 8] ∧
      (r.pushEvicting 3 (Queue.refilling [8, 9])).ring.queue.items = [9, 3] ∧
      itemsOf (r.consume 3 fun k a => ⟨if k = 0 then [a + 10] else [], false⟩).deliveries
        = [1, 2, 11] ∧
      [1, 2] <+: itemsOf (r.consumeAll fun _ a => ⟨[a], false⟩).deliveries := by
  have reached : Reached ⟨2, by decide, .dropOldest, true⟩
      (((Ring.new ⟨2, by decide, .dropOldest, true⟩).tryPush 1).1.tryPush 2).1 :=
    (Reached.new.tryPush 1).tryPush 2
  obtain ⟨evicts, consumes, ends⟩ := reentrant_callbacks_keep_line (by decide) reached
  have full := (evicts 3 [8, 9]).2.1 (by decide +kernel)
  refine ⟨by decide, _, reached, by decide +kernel, full.1.trans ?_, full.2.2.trans ?_, ?_, ?_⟩
  · decide +kernel
  · decide +kernel
  · rw [(consumes _ _).1]
    decide +kernel
  · have begins := ((ends fun _ a => ⟨[a], false⟩).2.2 fun _ _ => rfl).2
    convert begins using 1
    decide +kernel

end Ring

end Telemetry
