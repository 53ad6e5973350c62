import Telemetry.Proofs.Ring.Accesses

set_option autoImplicit false

/-! # Where a record is

A record that was offered to a ring is queued, or was handed out or given back, or was destroyed by
a panic, and it is in one of these places only. A call that unwinds has taken out the records that
it handed out and nothing else, and the end of the ring takes out the others. -/

namespace Telemetry.Ring

variable {α : Type}

/-! ## The end of a ring -/

/-- The loop that takes everything out of a ring at its end. -/
def clearing (r : Ring α) : Consumption α :=
  consumeRounds collect (r.config.capacity.toNat + 1) 0 r

theorem clear_eq (r : Ring α) : r.clear = r.clearing.ring :=
  rfl

/-- The end of a ring takes out what is queued, each record once, and leaves nothing. -/
theorem Accounts.clears {log : List (Access α)} {r : Ring α} {items : List α} {head : Nat}
    {config : Config} (fits : config.Fits) (reached : Reached config r)
    (h : Accounts log r items head) :
    itemsOf r.clearing.deliveries = items ∧ r.clear.isEmpty = true ∧ r.clear.live = 0 := by
  have few := Nat.le_succ_of_le h.holds.bounded
  obtain ⟨-, handed, -, head', empty⟩ :=
    h.holds.consumeRounds_collect (r.config.capacity.toNat + 1) 0
  rw [List.take_of_length_le few] at handed
  rw [List.drop_of_length_le few] at empty
  obtain ⟨log', logged⟩ :=
    (reached.consumeRounds collect (r.config.capacity.toNat + 1) 0).exists_log
  obtain ⟨items', head'', after⟩ := logged.accounts fits
  refine ⟨handed, ?_, ?_⟩
  · rw [clear_eq, clearing, empty.isEmpty_eq]
    rfl
  · rw [clear_eq, clearing, empty.live_eq after.size]
    rfl

/-! ## Panics -/

/-- The records that a callback pushed into the ring that evicts. -/
def Eviction.stored (e : Eviction α) (reactions : List (Reaction α)) : List α :=
  answeredWith true (pushesOf reactions e.evicted.length) e.accepted

/-- The records that a handler pushed into the ring that is consumed. -/
def Consumption.stored (c : Consumption α) (handler : Nat → α → Reaction α) : List α :=
  answeredWith true (pushesFrom handler 0 c.deliveries) (answersOf c.deliveries)

/-- A list that is cut behind as many places as its first part has. -/
theorem take_drop_of_append {front back items : List α} {n : Nat} (line : front ++ back = items)
    (length : front.length = n) : front = items.take n ∧ back = items.drop n := by
  rw [← line]
  exact ⟨(List.take_left' length).symm, (List.drop_left' length).symm⟩

/-- What a panic of a callback at its call number `k`, counted from 0, leaves of a ring. -/
structure UnwindsInOrder (r : Ring α) : Prop where
  /-- A consumption has handed out the `k + 1` oldest records; the others stay, in order. -/
  consume : ∀ (n : Nat) (handler : Nat → α → Reaction α) (k : Nat) (d : Delivery α),
    (r.consume n handler).deliveries[k]? = some d → (handler k d.item).panics = true →
    (r.consume n handler).ending = .panicked ∧
    itemsOf (r.consume n handler).deliveries
      = (r.queue.items ++ (r.consume n handler).stored handler).take (k + 1) ∧
    (r.consume n handler).ring.queue.items
      = (r.queue.items ++ (r.consume n handler).stored handler).drop (k + 1)
  /-- There is such a call if there are so many records and no earlier call panics. -/
  reaches : ∀ (n : Nat) (handler : Nat → α → Reaction α) (k : Nat), k < n →
    k < r.queue.items.length → (∀ j < k, ∀ a, (handler j a).panics = false) →
    k < (r.consume n handler).deliveries.length
  /-- An evicting push has evicted the `k + 1` oldest records and has not stored the one offered. -/
  pushEvicting : ∀ (a : α) (reactions : List (Reaction α)) (k : Nat),
    k < (r.pushEvicting a reactions).evicted.length →
    (reactions[k]?.getD Reaction.quiet).panics = true →
    (r.pushEvicting a reactions).ending = .panicked ∧
    (r.pushEvicting a reactions).evicted
      = (r.queue.items ++ (r.pushEvicting a reactions).stored reactions).take (k + 1) ∧
    (r.pushEvicting a reactions).ring.queue.items
      = (r.queue.items ++ (r.pushEvicting a reactions).stored reactions).drop (k + 1)
  /-- On a full ring the callback is called. -/
  evicts : ∀ (a : α) (reactions : List (Reaction α)), r.isFull = true →
    (r.pushEvicting a reactions).evicted ≠ []

theorem Represents.unwindsInOrder {r : Ring α} (h : Represents r r.queue) : UnwindsInOrder r where
  consume := by
    intro n handler k d made panics
    have follows := h.consuming n handler
    have facts := h.withinBounds.consume n handler
    rw [follows.deliveries] at made
    have panics' := facts.panics k d made
    rw [Nat.zero_add, panics] at panics'
    obtain ⟨unwound, last⟩ := panics'.1 rfl
    rw [Consumption.stored, follows.deliveries, follows.ending,
      follows.becomes.represents.queue_eq]
    exact ⟨unwound, take_drop_of_append facts.line (by rw [itemsOf, List.length_map, last])⟩
  reaches := by
    intro n handler k few many calm
    have follows := h.consuming n handler
    have facts := h.withinBounds.consume n handler
    rw [follows.deliveries]
    by_contra short
    rcases facts.ends with returned | unwound
    · -- it would have stopped early, with no record left
      rcases facts.stops returned with all | nothing
      · exact short (Nat.lt_of_lt_of_eq few all.symm)
      · have longest := congrArg List.length facts.line
        rw [nothing, List.append_nil, List.length_append, itemsOf, List.length_map] at longest
        exact short (Nat.lt_of_lt_of_le many (longest ▸ Nat.le_add_right ..))
    · -- its last call would have panicked, and is an earlier one
      obtain ⟨j, d, last, panicked⟩ := facts.last_panics unwound
      rw [Nat.zero_add, calm j (by omega)] at panicked
      cases panicked
  pushEvicting := by
    intro a reactions k made panics
    have follows := h.displace a reactions
    have facts := h.withinBounds.displace a reactions
    rw [follows.evicted] at made
    obtain ⟨unwound, last⟩ := (facts.panics k made).1 panics
    have line := facts.line
    rw [unwound, if_neg (by decide), List.append_nil] at line
    rw [Eviction.stored, follows.evicted, follows.accepted, follows.ending,
      follows.becomes.represents.queue_eq]
    exact ⟨unwound, take_drop_of_append line last.symm⟩
  evicts := by
    intro a reactions full
    have follows := h.displace a reactions
    rw [h.isFull_eq] at full
    rw [follows.evicted]
    exact h.withinBounds.displace_evicts full a reactions

/-! ## One place for each record -/

/-- What a log and a ring that it led to say of the records. -/
structure KeepsCustody (log : List (Access α)) (r : Ring α) : Prop where
  /-- Every read finds a record that was written and not read before. -/
  orderly : Access.Orderly log
  /-- What was written has been read, or stands in the queue behind all that was read. -/
  order : Access.written log = Access.read log ++ r.queue.items
  /-- The slots hold the queued records, each once. -/
  slots : (r.slots.toList.filterMap (·.value)).Perm r.queue.items
  alive : r.live = r.length.toNat
  /-- From here on the ring shows what the queue shows. -/
  behaves : ∀ calls : List (Call α),
    (r.performAll calls).2 = (r.queue.performAll r.config.overflow calls).2
  /-- The end of the ring takes out each queued record once. -/
  ends : itemsOf r.clearing.deliveries = r.queue.items
  nothingLeft : r.clear.isEmpty = true ∧ r.clear.live = 0

theorem Logged.keepsCustody {config : Config} (fits : config.Fits) {log : List (Access α)}
    {r : Ring α} (h : Logged config log r) : KeepsCustody log r := by
  obtain ⟨items, head, accounts⟩ := h.accounts fits
  have holds := accounts.holds
  have stands : Represents r ⟨r.config.capacity.toNat, items⟩ := ⟨rfl, head, holds⟩
  have queue := stands.queue_eq
  obtain ⟨cleared, nothingLeft⟩ := accounts.clears fits h.reached
  refine ⟨accounts.orderly, ?_, ?_, ?_, ?_, ?_, nothingLeft⟩
  · rw [queue]
    exact accounts.order
  · rw [queue]
    exact holds.slots_perm accounts.size
  · rw [holds.live_eq accounts.size, holds.length_eq]
  · intro calls
    rw [queue]
    exact stands.performAll calls
  · rw [queue]
    exact cleared

/-- **A record is in one place, whatever panics.** On any ring that one thread can come by, of any
capacity that memory has room for, and with the accesses that led to it: a record is read if it was
written and not read before, the records in the slots are the queued ones, as many as the ring's
length says, the ring goes on as a bounded queue of these, and its end takes out each of them once.
A callback that panics has been handed the oldest records up to this call, the others stay in order,
and a record that was offered is not stored. Any further call, whatever its callback pushes and
wherever it panics, writes what it stores and reads what it hands out.

Any number of calls on a new ring come to their end, and then each record offered is queued,
consumed, evicted, refused or destroyed by a panic, in one place only. -/
theorem records_stay_in_one_place (config : Config) (fits : config.capacity.toNat + 1 ≤ 2 ^ 63) :
    (∀ (log : List (Access α)) (r : Ring α), Logged config log r →
      KeepsCustody log r ∧ UnwindsInOrder r ∧
      ∀ command : Command α, Moves config r (r.execute command).flow.stored
        (r.execute command).flow.removed (r.execute command).ring) ∧
    ∀ (commands : List (Command α)) (s : Ring α) (outcomes : List (Outcome α)),
      (Ring.new config).executeAll commands = (s, outcomes) →
      (∀ o ∈ outcomes, o.ending = .returned ∨ o.ending = .panicked) ∧
      (∃ log, Logged config log s ∧ Access.written log = allOf (·.stored) outcomes ∧
        Access.read log = allOf (·.removed) outcomes) ∧
      (s.queue.items ++ allOf (·.consumed) outcomes ++ allOf (·.evicted) outcomes
        ++ allOf (·.refused) outcomes ++ allOf (·.destroyed) outcomes).Perm
          (allOf (·.offered) outcomes) := by
  refine ⟨fun log r logged => ?_, fun commands s outcomes run => ?_⟩
  · have reached := logged.reached
    exact ⟨logged.keepsCustody fits, (reached.represents fits).1.unwindsInOrder,
      reached.moves_execute fits⟩
  · obtain ⟨q, settled⟩ := (represents_new config fits).executeAll commands
    have moves := Reached.new.moves_executeAll fits commands
    rw [run] at settled moves
    obtain ⟨log, logged, written, read⟩ := moves [] .new
    rw [settled.becomes.represents.queue_eq]
    exact ⟨settled.ends, ⟨log, logged, written, read⟩, settled.places rfl⟩

/-- Calls of which two unwind: the first finds the ring full and loses the record offered, the
second has pushed one back before. -/
def unwindingCalls : List (Command Nat) :=
  [.push 1, .push 2, .pushEvicting 3 [⟨[], true⟩], .push 4,
    .consume 5 fun k _ => if k = 0 then ⟨[9], false⟩ else ⟨[], true⟩]

theorem records_stay_in_one_place_of_two_panics :
    (2 : UInt64).toNat + 1 ≤ 2 ^ 63 ∧
    ∃ s outcomes,
      (Ring.new ⟨2, by decide, .dropOldest, true⟩).executeAll unwindingCalls = (s, outcomes) ∧
      outcomes.map (·.ending) = [.returned, .returned, .panicked, .returned, .panicked] ∧
      s.queue.items = [9] ∧ s.live = 1 ∧ UnwindsInOrder s ∧
      (∃ log, Logged ⟨2, by decide, .dropOldest, true⟩ log s ∧
        Access.written log = [1, 2, 4, 9] ∧ Access.read log = [1, 2, 4]) ∧
      ([9] ++ [2, 4] ++ [1] ++ [] ++ [3]).Perm [1, 2, 3, 4, 9] := by
  obtain ⟨keeps, runs⟩ :=
    records_stay_in_one_place (α := Nat) ⟨2, by decide, .dropOldest, true⟩ (by decide)
  obtain ⟨-, ⟨log, logged, written, read⟩, places⟩ := runs unwindingCalls _ _ rfl
  refine ⟨by decide, _, _, rfl, by decide +kernel, by decide +kernel, by decide +kernel,
    (keeps log _ logged).2.1, ⟨log, logged, written.trans ?_, read.trans ?_⟩, ?_⟩
  · decide +kernel
  · decide +kernel
  · convert places using 1
    · decide +kernel
    · decide +kernel

end Telemetry.Ring
