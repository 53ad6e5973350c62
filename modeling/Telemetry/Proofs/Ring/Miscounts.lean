import Telemetry.Proofs.Ring.Balance

set_option autoImplicit false

/-! # What the counters of a ring count twice and leave out

Two counts do not always say what their names say. An attempt that finds no room counts as a
rejection, also the one that an evicting push makes before it evicts; its record is stored later on
and then counts as pushed as well. And a bulk consumption counts its records at its end, so that a
panic of the handler leaves them out, while an eviction is counted before its callback is called.
Here it is said by how much the counts are off: by the evicted records, and by the records that
consumptions took out before they unwound. -/

namespace Telemetry.Ring

variable {α : Type}

section

variable {r s : Ring α} {q q' : Queue α} {outcomes : List (Outcome α)}

/-- What calls on a new ring that counts did, and what its counters show then. -/
theorem settled_new {config : Config} (fits : config.Fits) (on : config.countersEnabled = true)
    {commands : List (Command α)}
    (run : (Ring.new config).executeAll commands = (s, outcomes)) :
    ∃ q, Settled (Ring.new config) (Queue.empty config.capacity.toNat) outcomes s q ∧
      s.snapshot = Counters.zero.after (tallyOf outcomes) := by
  obtain ⟨q, settled⟩ := (represents_new config fits).executeAll commands
  rw [run] at settled
  refine ⟨q, settled, ?_⟩
  rw [snapshot, settled.becomes.config, settled.becomes.counters, countersAfter]
  simp only [Ring.new, on, if_true]

/-! ## Attempts that found no room -/

/-- A call that returns destroys no record. -/
theorem destroyed_of_returned (r : Ring α) (command : Command α)
    (returned : (r.execute command).ending = .returned) :
    (r.execute command).flow.destroyed = [] := by
  have evicting (a : α) (reactions : List (Reaction α)) (evicted : List α)
      (accepted : List Bool) :
      (Flow.ofEviction a reactions evicted accepted .returned).destroyed = [] := by
    simp [Flow.ofEviction]
  cases command with
  | tryPush a =>
      simp only [execute]
      split <;> simp [Flow.ofPush]
  | push a =>
      simp only [execute, Flow.ofPush]
      split <;> rfl
  | offer a reactions =>
      cases policy : r.config.overflow with
      | dropNewest => simp [execute, policy, Flow.ofRefusal]
      | dropOldest =>
          simp only [execute, policy] at returned ⊢
          rw [returned]
          exact evicting ..
  | pushEvicting a reactions =>
      simp only [execute] at returned ⊢
      rw [returned]
      exact evicting ..
  | pop =>
      simp only [execute]
      split <;> rfl
  | consume n handler => rfl
  | consumeAll handler => rfl

theorem allOf_destroyed (r : Ring α) (commands : List (Command α))
    (returned : ∀ o ∈ (r.executeAll commands).2, o.ending = .returned) :
    allOf (·.destroyed) (r.executeAll commands).2 = [] := by
  induction commands generalizing r with
  | nil => rfl
  | cons command rest ih =>
      obtain ⟨first, later⟩ := List.forall_mem_cons.1 returned
      simp only [executeAll, allOf, List.flatMap_cons, destroyed_of_returned r command first]
      exact ih _ later

/-- Each record that was offered was stored, refused or destroyed. -/
theorem Settled.length_offered (h : Settled r q outcomes s q') (empty : q.items = []) :
    (allOf (·.stored) outcomes).length + (allOf (·.refused) outcomes).length
        + (allOf (·.destroyed) outcomes).length
      = (allOf (·.offered) outcomes).length := by
  have places := (h.places empty).length_eq
  have stored := h.length_stored empty
  simp only [List.length_append] at places
  rw [Queue.length] at stored
  omega

end

/-- **A ring counts as rejected each attempt that found no room.** For any capacity that memory has
room for, either policy, and counting switched on: whatever callbacks push, and wherever they
panic, a new ring has counted as rejected the records that were refused and, once more for each
evicted record, the attempt of the evicting push that found the ring full. So the count is that of
the refused records exactly if no eviction shows. As long as no callback panics, the records counted
as pushed and as rejected are together those that were offered, and the evicted ones once more. -/
theorem rejections_are_attempts (config : Config)
    (fits : config.capacity.toNat + 1 ≤ 2 ^ 63) (on : config.countersEnabled = true)
    (commands : List (Command α)) (s : Ring α) (outcomes : List (Outcome α))
    (run : (Ring.new config).executeAll commands = (s, outcomes)) :
    s.snapshot.evicted = (allOf (·.evicted) outcomes).length.toUInt64 ∧
    s.snapshot.rejected
      = (allOf (·.refused) outcomes).length.toUInt64 + s.snapshot.evicted ∧
    (s.snapshot.rejected = (allOf (·.refused) outcomes).length.toUInt64 ↔
      s.snapshot.evicted = 0) ∧
    ((∀ command ∈ commands, command.IsCalm) →
      s.snapshot.pushed + s.snapshot.rejected
        = (allOf (·.offered) outcomes).length.toUInt64 + s.snapshot.evicted) := by
  obtain ⟨q, settled, counts⟩ := settled_new fits on run
  have evicted : s.snapshot.evicted = (allOf (·.evicted) outcomes).length.toUInt64 := by
    rw [counts]
    exact UInt64.zero_add _
  have rejected : s.snapshot.rejected
      = (allOf (·.refused) outcomes).length.toUInt64 + s.snapshot.evicted := by
    rw [evicted, counts, ← toUInt64_add]
    exact UInt64.zero_add _
  refine ⟨evicted, rejected, ?_, fun calm => ?_⟩
  · rw [rejected]
    exact UInt64.add_eq_left
  · have returned := (represents_new (α := α) config fits).executeAll_returns calm
    have destroyed := allOf_destroyed (Ring.new config) commands returned
    have offered := settled.length_offered rfl
    rw [run] at destroyed
    rw [destroyed, List.length_nil, Nat.add_zero] at offered
    have pushed : s.snapshot.pushed = (allOf (·.stored) outcomes).length.toUInt64 := by
      rw [counts]
      exact UInt64.zero_add _
    rw [rejected, pushed, ← offered, toUInt64_add, UInt64.add_assoc]

/-- A full ring makes room for a second record: both are stored, and nothing is refused, but a
rejection is counted. -/
theorem rejections_are_attempts_of_eviction :
    (1 : UInt64).toNat + 1 ≤ 2 ^ 63 ∧
    ∃ (s : Ring Nat) (outcomes : List (Outcome Nat)),
      (Ring.new ⟨1, by decide, .dropOldest, true⟩).executeAll [.push 1, .pushEvicting 2 []]
        = (s, outcomes) ∧
      allOf (·.refused) outcomes = [] ∧ s.snapshot = ⟨2, 0, 1, 1⟩ ∧
      s.snapshot.rejected ≠ (allOf (·.refused) outcomes).length.toUInt64 ∧
      s.snapshot.pushed + s.snapshot.rejected
        = (allOf (·.offered) outcomes).length.toUInt64 + s.snapshot.evicted := by
  obtain ⟨-, -, shows, adds⟩ := rejections_are_attempts (α := Nat)
    ⟨1, by decide, .dropOldest, true⟩ (by decide) rfl [.push 1, .pushEvicting 2 []] _ _ rfl
  refine ⟨by decide, _, _, rfl, by decide +kernel, by decide +kernel, ?_, ?_⟩
  · exact mt shows.1 (by decide +kernel)
  · exact adds (by simp [Command.IsCalm])

/-! ## Consumptions that unwound -/

/-- Records that a consumption took out and did not count, because it unwound. -/
def Outcome.uncounted (o : Outcome α) : List α :=
  if o.ending = .returned then [] else o.flow.consumed

/-- No handler of a bulk consumption panics. The callback of an offer or an evicting push may. -/
def Command.ConsumesCalmly : Command α → Prop
  | .consume _ handler | .consumeAll handler => ∀ k a, (handler k a).panics = false
  | .tryPush _ | .push _ | .offer _ _ | .pushEvicting _ _ | .pop => True

section

variable {r : Ring α} {q : Queue α}

/-- Each record that left for a consumer was counted, or taken out by a consumption that unwound. -/
theorem length_counted (outcomes : List (Outcome α)) :
    (outcomes.flatMap (·.counted)).length + (outcomes.flatMap (·.uncounted)).length
      = (allOf (·.consumed) outcomes).length := by
  induction outcomes with
  | nil => rfl
  | cons o rest ih =>
      have one : o.counted.length + o.uncounted.length = o.flow.consumed.length := by
        unfold Outcome.counted Outcome.uncounted
        split <;> simp
      simp only [allOf, List.flatMap_cons, List.length_append] at ih ⊢
      omega

/-- A call leaves records uncounted only if the handler of a bulk consumption panics. -/
theorem Represents.uncounted_eq_nil (h : Represents r q) {command : Command α}
    (calm : command.ConsumesCalmly) : (r.execute command).uncounted = [] := by
  have nothing (o : Outcome α) (none : o.flow.consumed = []) : o.uncounted = [] := by
    simp [Outcome.uncounted, none]
  have returned {command : Command α} (calm : command.IsCalm) :
      (r.execute command).uncounted = [] := if_pos (h.execute_returns calm)
  cases command with
  | tryPush a =>
      refine nothing _ ?_
      simp only [Ring.execute]
      split <;> simp [Flow.ofPush]
  | push a =>
      refine nothing _ ?_
      simp only [Ring.execute, Flow.ofPush]
      split <;> rfl
  | offer a reactions =>
      refine nothing _ ?_
      cases policy : r.config.overflow with
      | dropNewest => simp [Ring.execute, policy, Flow.ofRefusal]
      | dropOldest => simp [Ring.execute, policy, Flow.ofEviction]
  | pushEvicting a reactions => exact nothing _ rfl
  | pop => exact returned trivial
  | consume n handler => exact returned calm
  | consumeAll handler => exact returned calm

theorem Represents.uncounted_executeAll (h : Represents r q) {commands : List (Command α)}
    (calm : ∀ command ∈ commands, command.ConsumesCalmly) :
    (r.executeAll commands).2.flatMap (·.uncounted) = [] := by
  induction commands generalizing r q with
  | nil => rfl
  | cons command rest ih =>
      obtain ⟨first, later⟩ := List.forall_mem_cons.1 calm
      obtain ⟨q', settles⟩ := h.execute command
      simp only [Ring.executeAll, List.flatMap_cons, h.uncounted_eq_nil first]
      exact ih settles.becomes.represents later

end

/-- **A panic of a handler leaves records uncounted, and nothing else does.** For any capacity that
memory has room for, either policy, and counting switched on: after each call, returned or unwound,
the records that a new ring counted as pushed are those popped, those evicted, those that are in it,
and those that consumptions took out before they unwound. So the first three make up the pushed ones
exactly if no uncounted record shows, as is the case as long as no handler of a consumption panics,
also if callbacks of evictions do. -/
theorem unwound_consumptions_are_uncounted (config : Config)
    (fits : config.capacity.toNat + 1 ≤ 2 ^ 63) (on : config.countersEnabled = true)
    (commands : List (Command α)) (s : Ring α) (outcomes : List (Outcome α))
    (run : (Ring.new config).executeAll commands = (s, outcomes)) :
    s.snapshot.pushed
      = s.snapshot.popped + s.snapshot.evicted + s.length
        + (outcomes.flatMap (·.uncounted)).length.toUInt64 ∧
    (s.snapshot.pushed = s.snapshot.popped + s.snapshot.evicted + s.length ↔
      (outcomes.flatMap (·.uncounted)).length.toUInt64 = 0) ∧
    ((∀ command ∈ commands, command.ConsumesCalmly) →
      s.snapshot.pushed = s.snapshot.popped + s.snapshot.evicted + s.length) := by
  have represents := represents_new (α := α) config fits
  obtain ⟨q, settled, counts⟩ := settled_new fits on run
  have balance : s.snapshot.pushed
      = s.snapshot.popped + s.snapshot.evicted + s.length
        + (outcomes.flatMap (·.uncounted)).length.toUInt64 := by
    have stored := settled.length_stored rfl
    have consumed := length_counted outcomes
    rw [counts, settled.becomes.represents.length_eq]
    simp only [Counters.after, Counters.zero, tallyOf, UInt64.zero_add, ← toUInt64_add]
    exact congrArg Nat.toUInt64 (by omega)
  have exactly : s.snapshot.pushed = s.snapshot.popped + s.snapshot.evicted + s.length ↔
      (outcomes.flatMap (·.uncounted)).length.toUInt64 = 0 := by
    rw [balance]
    exact UInt64.add_eq_left
  refine ⟨balance, exactly, fun calm => exactly.2 ?_⟩
  have none := represents.uncounted_executeAll calm
  rw [run] at none
  rw [none]
  rfl

/-- A handler panics at its only call: the record is gone, and no counter says so. -/
theorem unwound_consumptions_are_uncounted_of_one :
    (2 : UInt64).toNat + 1 ≤ 2 ^ 63 ∧
    ∃ (s : Ring Nat) (outcomes : List (Outcome Nat)),
      (Ring.new ⟨2, by decide, .dropNewest, true⟩).executeAll
        [.push 1, .consume 1 fun _ _ => ⟨[], true⟩] = (s, outcomes) ∧
      s.length = 0 ∧ s.snapshot = ⟨1, 0, 0, 0⟩ ∧
      outcomes.flatMap (·.uncounted) = [1] ∧
      s.snapshot.pushed
        = s.snapshot.popped + s.snapshot.evicted + s.length
          + (outcomes.flatMap (·.uncounted)).length.toUInt64 ∧
      s.snapshot.pushed ≠ s.snapshot.popped + s.snapshot.evicted + s.length := by
  obtain ⟨balance, exactly, -⟩ := unwound_consumptions_are_uncounted (α := Nat)
    ⟨2, by decide, .dropNewest, true⟩ (by decide) rfl
    [.push 1, .consume 1 fun _ _ => ⟨[], true⟩] _ _ rfl
  exact ⟨by decide, _, _, rfl, by decide +kernel, by decide +kernel, by decide +kernel, balance,
    mt exactly.1 (by decide +kernel)⟩

end Telemetry.Ring
