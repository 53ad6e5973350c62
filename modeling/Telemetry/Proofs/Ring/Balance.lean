import Telemetry.Proofs.Ring.Accesses

set_option autoImplicit false

/-! # The counters of a ring balance

As long as no callback panics, the counters of a ring say how many records its calls stored, handed
to consumers and evicted, whatever the callbacks push meanwhile. What was stored and did not leave
is in the ring. Counters that are switched off stand at zero. -/

namespace Telemetry.Ring

variable {α : Type}

/-! ## Calls that do not panic -/

/-- No callback of the call panics. -/
def Command.IsCalm : Command α → Prop
  | .offer _ reactions | .pushEvicting _ reactions =>
    ∀ reaction ∈ reactions, reaction.panics = false
  | .consume _ handler | .consumeAll handler => ∀ k a, (handler k a).panics = false
  | .tryPush _ | .push _ | .pop => True

/-- A callback is quiet once its reactions are used up. -/
theorem calm_getD {reactions : List (Reaction α)}
    (calm : ∀ reaction ∈ reactions, reaction.panics = false) (k : Nat) :
    (reactions[k]?.getD Reaction.quiet).panics = false := by
  cases here : reactions[k]? with
  | none => rfl
  | some reaction => exact calm reaction (List.mem_of_getElem? here)

section

variable {r s : Ring α} {q q' : Queue α} {outcomes : List (Outcome α)}

/-- A call whose callback does not panic returns. -/
theorem Represents.execute_returns (h : Represents r q) {command : Command α}
    (calm : command.IsCalm) : (r.execute command).ending = .returned := by
  have evicting (a : α) {reactions : List (Reaction α)}
      (calm : ∀ reaction ∈ reactions, reaction.panics = false) :
      (r.pushEvicting a reactions).ending = .returned :=
    (h.displace a reactions).ending.trans
      ((h.withinBounds.displace a reactions).returned (calm_getD calm))
  have consuming (n : Nat) {handler : Nat → α → Reaction α}
      (calm : ∀ k a, (handler k a).panics = false) : (r.consume n handler).ending = .returned :=
    (h.consuming n handler).ending.trans ((h.withinBounds.consume n handler).returned calm)
  cases command with
  | tryPush a =>
      rcases h.counts_tryPush a with ⟨s, q', -, tried, -⟩ | ⟨s, -, tried, -⟩
      · simp only [Ring.execute, tried]
      · simp only [Ring.execute, tried]
  | push a =>
      rcases h.counts_tryPush a with ⟨s, q', -, tried, -⟩ | ⟨s, -, tried, -⟩
      · simp only [Ring.execute, tried, Push.ending]
      · simp only [Ring.execute, tried, Push.ending]
  | offer a reactions =>
      cases policy : r.config.overflow with
      | dropOldest =>
          simp only [Ring.execute, offerReacting, policy]
          exact evicting a calm
      | dropNewest =>
          rcases h.counts_tryPush a with ⟨s, q', -, tried, -⟩ | ⟨s, -, tried, -⟩
          · simp only [Ring.execute, offerReacting, policy, tried]
          · simp only [Ring.execute, offerReacting, policy, tried]
            rw [List.headD_eq_head?_getD, List.head?_eq_getElem?, calm_getD calm 0]
            rfl
  | pushEvicting a reactions => exact evicting a calm
  | pop =>
      rcases h.counts_takeOldest with ⟨s, a, q', -, took, -⟩ | ⟨-, took⟩
      · simp only [Ring.execute, pop, took]
      · simp only [Ring.execute, pop, took, Pop.ending]
  | consume n handler => exact consuming n calm
  | consumeAll handler => exact consuming _ calm

theorem Represents.executeAll_returns (h : Represents r q) {commands : List (Command α)}
    (calm : ∀ command ∈ commands, command.IsCalm) :
    ∀ o ∈ (r.executeAll commands).2, o.ending = .returned := by
  induction commands generalizing r q with
  | nil => simp [Ring.executeAll]
  | cons command rest ih =>
      obtain ⟨calm, later⟩ := List.forall_mem_cons.1 calm
      obtain ⟨q', settles⟩ := h.execute command
      exact List.forall_mem_cons.2 ⟨h.execute_returns calm, ih settles.becomes.represents later⟩

/-! ## The balance -/

/-- What was stored is in the ring, or was consumed or evicted. -/
theorem Settled.length_stored (h : Settled r q outcomes s q') (empty : q.items = []) :
    (allOf (·.stored) outcomes).length
      = (allOf (·.consumed) outcomes).length + (allOf (·.evicted) outcomes).length
        + q'.length := by
  have removed : (allOf (·.removed) outcomes).length
      = (allOf (·.consumed) outcomes).length + (allOf (·.evicted) outcomes).length := by
    rw [← List.length_append]
    exact (List.flatMap_append_perm ..).symm.length_eq
  have line := congrArg List.length h.line
  rw [empty, List.nil_append, List.length_append, removed] at line
  exact line

/-- If all calls returned, all records that were consumed were counted. -/
theorem flatMap_counted (returned : ∀ o ∈ outcomes, o.ending = .returned) :
    outcomes.flatMap (·.counted) = allOf (·.consumed) outcomes :=
  List.flatMap_congr fun o made => if_pos (returned o made)

/-- Counters that are switched off never move. -/
theorem Reached.counters_eq_zero {config : Config} (fits : config.Fits)
    (off : config.countersEnabled = false) (h : Reached config r) :
    r.counters = Counters.zero := by
  induction h with
  | new => rfl
  | @tryPush r a before ih =>
      obtain ⟨represents, same⟩ := before.represents fits
      rcases represents.counts_tryPush a with ⟨s, q', -, tried, becomes⟩ | ⟨s, -, tried, becomes⟩
      · rw [tried, becomes.counters, countersAfter, same, off]
        exact ih
      · rw [tried, becomes.counters, countersAfter, same, off]
        exact ih
  | @takeOldest r before ih =>
      obtain ⟨represents, same⟩ := before.represents fits
      rcases represents.counts_takeOldest with ⟨s, a, q', -, took, becomes⟩ | ⟨-, took⟩
      · rw [took, becomes.counters, countersAfter, same, off]
        exact ih
      · rw [took]
        exact ih
  | @count r f before ih =>
      obtain ⟨-, same⟩ := before.represents fits
      rw [Ring.count, same, off]
      exact ih

end

/-- **The counters of a ring balance.** For any capacity that memory has room for, and either
policy: calls whose callbacks do not panic return, whatever they push. If counting is on, and all
calls on a new ring have returned, then it counts as pushed the records that it accepted, as popped
those handed to callers and consumers, as evicted those handed to eviction callbacks, and the pushed
ones are those popped, those evicted and those that are in the ring, up to the wrapping of the
words. If counting is off, the counters stand at zero, also in the middle of a call. -/
theorem ring_counters_balance (config : Config) (fits : config.capacity.toNat + 1 ≤ 2 ^ 63) :
    (∀ commands : List (Command α), (∀ command ∈ commands, command.IsCalm) →
      ∀ o ∈ ((Ring.new config).executeAll commands).2, o.ending = .returned) ∧
    (config.countersEnabled = true →
      ∀ (commands : List (Command α)) (s : Ring α) (outcomes : List (Outcome α)),
        (Ring.new config).executeAll commands = (s, outcomes) →
        (∀ o ∈ outcomes, o.ending = .returned) →
        s.snapshot.pushed = (allOf (·.stored) outcomes).length.toUInt64 ∧
        s.snapshot.popped = (allOf (·.consumed) outcomes).length.toUInt64 ∧
        s.snapshot.evicted = (allOf (·.evicted) outcomes).length.toUInt64 ∧
        s.snapshot.pushed = s.snapshot.popped + s.snapshot.evicted + s.length) ∧
    (config.countersEnabled = false →
      (∀ commands : List (Command α), Reached config ((Ring.new config).executeAll commands).1) ∧
      ∀ r : Ring α, Reached config r →
        r.counters = Counters.zero ∧ r.snapshot = Counters.zero) := by
  have represents := represents_new (α := α) config fits
  refine ⟨fun commands calm => represents.executeAll_returns calm,
    fun on commands s outcomes run returned => ?_,
    fun off => ⟨fun commands => ?_, fun r reached => ?_⟩⟩
  · obtain ⟨q, settled⟩ := represents.executeAll commands
    rw [run] at settled
    have counts : s.snapshot = Counters.zero.after (tallyOf outcomes) := by
      rw [snapshot, settled.becomes.config, settled.becomes.counters, countersAfter]
      simp only [Ring.new, on, if_true]
    have popped := congrArg List.length (flatMap_counted returned)
    rw [counts, settled.becomes.represents.length_eq]
    simp only [Counters.after, Counters.zero, tallyOf, popped, UInt64.zero_add]
    refine ⟨trivial, trivial, trivial, ?_⟩
    rw [settled.length_stored rfl, toUInt64_add, toUInt64_add]
  · exact (Reached.new.moves_executeAll fits commands).reached .new
  · obtain ⟨-, same⟩ := reached.represents fits
    refine ⟨reached.counters_eq_zero fits off, ?_⟩
    rw [snapshot, same, off]
    rfl

/-- Two evictions, refilled once, and a consumer that pushes back. -/
def refillingCalls : List (Command Nat) :=
  [.push 1, .push 2, .pushEvicting 3 [⟨[4], false⟩],
    .consume 1 fun _ _ => ⟨[5], false⟩, .pop]

theorem ring_counters_balance_of_two :
    (2 : UInt64).toNat + 1 ≤ 2 ^ 63 ∧ (∀ command ∈ refillingCalls, command.IsCalm) ∧
    ∃ s outcomes,
      (Ring.new ⟨2, by decide, .dropOldest, true⟩).executeAll refillingCalls = (s, outcomes) ∧
      s.snapshot = ⟨5, 2, 2, 2⟩ ∧
      s.snapshot.pushed = s.snapshot.popped + s.snapshot.evicted + s.length ∧
      s.snapshot.pushed = (allOf (·.stored) outcomes).length.toUInt64 ∧
      ((Ring.new ⟨2, by decide, .dropOldest, false⟩).executeAll refillingCalls).1.snapshot
        = Counters.zero := by
  have calm : ∀ command ∈ refillingCalls, command.IsCalm := by
    simp [refillingCalls, Command.IsCalm]
  obtain ⟨returns, on, -⟩ :=
    ring_counters_balance (α := Nat) ⟨2, by decide, .dropOldest, true⟩ (by decide)
  obtain ⟨-, -, off⟩ :=
    ring_counters_balance (α := Nat) ⟨2, by decide, .dropOldest, false⟩ (by decide)
  obtain ⟨pushed, -, -, balance⟩ := on rfl refillingCalls _ _ rfl (returns refillingCalls calm)
  obtain ⟨reached, zero⟩ := off rfl
  exact ⟨by decide, calm, _, _, rfl, by decide +kernel, balance, pushed,
    (zero _ (reached refillingCalls)).2⟩

end Telemetry.Ring
