import Mathlib.Data.List.Nodup
import Mathlib.Data.List.Perm.Subperm
import Telemetry.Proofs.Ring.Commands

set_option autoImplicit false

/-! # What a thread writes and reads in the slots

Records are written into slots and read out of them. The log of these accesses shows that every
read finds a record which was written and not read before, that no record is written over, and that
what was written is what was read, in the same order, and behind it what is in the ring. This holds
of every ring that one thread can come by, also in the middle of a call, and so wherever a callback
may panic. What a call stores is what it writes, and what it hands out is what it reads. -/

namespace Telemetry.Ring

variable {α : Type}

/-! ## Accesses to the slots -/

/-- A step that writes or reads the record of a slot. -/
inductive Access (α : Type) where
  | writes (slot : Nat) (a : α)
  | reads (slot : Nat) (value : Option α)

/-- The access of a thread's next step. -/
def Place.access? (r : Ring α) : Place α → Option (Access α)
  | .pushWrite a tail => some (.writes (r.index tail).toNat a)
  | .popRead head => some (.reads (r.index head).toNat (r.valueAt head))
  | _ => none

/-- The accesses of an operation that runs alone for so many steps. -/
def accesses : Nat → Ring α → Place α → List (Access α)
  | 0, _, _ => []
  | steps + 1, r, place =>
    (place.access? r).toList ++ accesses steps (r.step false place).1 (r.step false place).2

/-- Rings that a single thread can come by, with the accesses that led to them. -/
inductive Logged (config : Config) : List (Access α) → Ring α → Prop where
  | new : Logged config [] (Ring.new config)
  | tryPush {log : List (Access α)} {r : Ring α} (a : α) :
      Logged config log r →
      Logged config (log ++ accesses longestRun r (.pushTail a)) (r.tryPush a).1
  | takeOldest {log : List (Access α)} {r : Ring α} :
      Logged config log r → Logged config (log ++ accesses longestRun r .popHead) r.takeOldest.1
  | count {log : List (Access α)} {r : Ring α} (f : Counters → Counters) :
      Logged config log r → Logged config log (r.count f)

theorem Reached.exists_log {config : Config} {r : Ring α} (h : Reached config r) :
    ∃ log, Logged config log r := by
  induction h with
  | new => exact ⟨_, .new⟩
  | tryPush a _ ih =>
      obtain ⟨log, logged⟩ := ih
      exact ⟨_, logged.tryPush a⟩
  | takeOldest _ ih =>
      obtain ⟨log, logged⟩ := ih
      exact ⟨_, logged.takeOldest⟩
  | count f _ ih =>
      obtain ⟨log, logged⟩ := ih
      exact ⟨_, logged.count f⟩

theorem Logged.reached {config : Config} {log : List (Access α)} {r : Ring α}
    (h : Logged config log r) : Reached config r := by
  induction h with
  | new => exact .new
  | tryPush a _ ih => exact ih.tryPush a
  | takeOldest _ ih => exact ih.takeOldest
  | count f _ ih => exact ih.count f

namespace Access

/-- The records that were written, in order. -/
def written (log : List (Access α)) : List α :=
  log.filterMap fun
    | .writes _ a => some a
    | .reads _ _ => none

/-- The records that were read, in order. -/
def read (log : List (Access α)) : List α :=
  log.filterMap fun
    | .writes _ _ => none
    | .reads _ value => value

/-- What an access leaves in slot number `i`. -/
def leaves (i : Nat) (before : Option α) : Access α → Option α
  | .writes slot a => if slot = i then some a else before
  | .reads slot _ => if slot = i then none else before

/-- The record of slot number `i` that was written and not read yet. -/
def pending (log : List (Access α)) (i : Nat) : Option α :=
  log.foldl (leaves i) none

/-- A write finds its slot empty, and a read finds a record: the one that was written there and not
read yet. -/
def IsDue (log : List (Access α)) : Access α → Prop
  | .writes slot _ => pending log slot = none
  | .reads slot value => value.isSome ∧ pending log slot = value

/-- Every access of a log is due. -/
def Orderly (log : List (Access α)) : Prop :=
  ∀ before access after, log = before ++ access :: after → IsDue before access

theorem written_append (log log' : List (Access α)) :
    written (log ++ log') = written log ++ written log' :=
  List.filterMap_append

theorem read_append (log log' : List (Access α)) : read (log ++ log') = read log ++ read log' :=
  List.filterMap_append

theorem pending_snoc (log : List (Access α)) (access : Access α) (i : Nat) :
    pending (log ++ [access]) i = leaves i (pending log i) access := by
  rw [pending, List.foldl_append]
  rfl

theorem orderly_nil : Orderly ([] : List (Access α)) := by
  intro before access after cut
  simp at cut

theorem Orderly.snoc {log : List (Access α)} {access : Access α} (h : Orderly log)
    (due : IsDue log access) : Orderly (log ++ [access]) := by
  intro before access' after cut
  rcases List.eq_nil_or_concat' after with rfl | ⟨rest, last, rfl⟩
  · obtain ⟨rfl, same⟩ := List.append_inj' cut rfl
    cases same
    exact due
  · rw [← List.cons_append, ← List.append_assoc] at cut
    exact h before access' rest (List.append_inj' cut rfl).1

end Access

section

variable {r : Ring α} {items : List α} {head : Nat}

theorem Holds.accesses_push_of_room (h : Holds r items head)
    (room : items.length < r.config.capacity.toNat) (a : α) :
    accesses longestRun r (.pushTail a)
      = [.writes ((head + items.length) % r.config.capacity.toNat) a] := by
  have slot : (r.index r.tail).toNat = (head + items.length) % r.config.capacity.toNat := by
    rw [h.tail_eq, toNat_index_position r h.fits]
  rw [← slot]
  simp [longestRun, accesses, step, Place.access?, h.stamp_of_room room]
  rfl

theorem Holds.accesses_push_of_full (h : Holds r items head)
    (full : items.length = r.config.capacity.toNat) (a : α) :
    accesses longestRun r (.pushTail a) = [] := by
  obtain ⟨hne, hlap⟩ := h.stamp_of_full full
  simp [longestRun, accesses, step, Place.access?, hne, hlap, h.lapAhead_of_full full]

theorem Holds.accesses_pop_of_cons {a : α} (h : Holds r (a :: items) head) :
    accesses longestRun r .popHead = [.reads (head % r.config.capacity.toNat) (some a)] := by
  have slot : (r.index r.head).toNat = head % r.config.capacity.toNat := by
    rw [h.head_eq, toNat_index_position r h.fits]
  have value : ({ r with head := r.next r.head } : Ring α).valueAt r.head = some a :=
    h.valueAt_head
  rw [← slot]
  simp [longestRun, accesses, step, Place.access?, h.stamp_of_cons, value]
  rfl

theorem Holds.accesses_pop_of_nil (h : Holds r [] head) :
    accesses longestRun r .popHead = [] := by
  simp [longestRun, accesses, step, Place.access?, h.stamp_of_nil, h.tail_eq_head]

/-! ## Records in the slots -/

theorem Holds.valueIn_put (h : Holds r items head)
    (room : items.length < r.config.capacity.toNat) (a : α) (i : Nat) :
    (r.put a).valueIn i
      = if (head + items.length) % r.config.capacity.toNat = i then some a else r.valueIn i := by
  have there := h.slot items.length room
  rw [valueIn, Ring.put, slots_write]
  change (if (r.index r.tail).toNat = i then r.slots[i]?.map _ else r.slots[i]?).bind _ = _
  rw [h.tail_eq, toNat_index_position r h.fits]
  split
  · rename_i here
    rw [← here, there]
    rfl
  · rfl

theorem Holds.valueIn_dropOldest (h : Holds r items head) (i : Nat) :
    r.dropOldest.valueIn i
      = if head % r.config.capacity.toNat = i then none else r.valueIn i := by
  rw [valueIn, Ring.dropOldest, slots_write]
  change (if (r.index r.head).toNat = i then r.slots[i]?.map _ else r.slots[i]?).bind _ = _
  rw [h.head_eq, toNat_index_position r h.fits]
  split
  · cases r.slots[i]? <;> rfl
  · rfl

theorem put_size (r : Ring α) (a : α) : (r.put a).slots.size = r.slots.size := by
  simp [put, setStamp, setValue]

theorem dropOldest_size (r : Ring α) : r.dropOldest.slots.size = r.slots.size := by
  simp [dropOldest, setStamp, setValue]

theorem count_slots (r : Ring α) (f : Counters → Counters) : (r.count f).slots = r.slots := by
  unfold Ring.count
  split <;> rfl

/-- The places of one lap are all slots, each once. -/
theorem window_perm {capacity : Nat} (head : Nat) :
    ((List.range capacity).map fun j => (head + j) % capacity).Perm (List.range capacity) := by
  have nodup : ((List.range capacity).map fun j => (head + j) % capacity).Nodup := by
    refine List.nodup_range.map_on fun i hi j hj same => ?_
    exact slot_inj head (List.mem_range.1 hi) (List.mem_range.1 hj) same
  refine (List.subperm_of_subset nodup fun i there => ?_).perm_of_length_le (by simp)
  obtain ⟨j, within, rfl⟩ := List.mem_map.1 there
  exact List.mem_range.2 (Nat.mod_lt _ (Nat.zero_lt_of_lt (List.mem_range.1 within)))

/-- The records that the slots hold are those of the queue. -/
theorem Holds.slots_perm (h : Holds r items head)
    (size : r.slots.size = r.config.capacity.toNat) :
    (r.slots.toList.filterMap (·.value)).Perm items := by
  have slots : r.slots.toList.filterMap (·.value)
      = (List.range r.config.capacity.toNat).filterMap r.valueIn := by
    have long : r.slots.toList.length ≤ r.config.capacity.toNat := by
      rw [Array.length_toList, size]
    rw [← filterMap_getElem?_range long, List.filterMap_filterMap]
    simp only [Array.getElem?_toList]
    rfl
  have places : ((List.range r.config.capacity.toNat).map
      fun j => (head + j) % r.config.capacity.toNat).filterMap r.valueIn = items := by
    rw [List.filterMap_map]
    refine (List.filterMap_congr fun j within => ?_).trans (filterMap_getElem?_range h.bounded)
    exact h.valueIn_window (List.mem_range.1 within)
  rw [slots]
  exact ((window_perm head).filterMap _).symm.trans (.of_eq places)

theorem Holds.live_eq (h : Holds r items head)
    (size : r.slots.size = r.config.capacity.toNat) : r.live = items.length := by
  rw [← (h.slots_perm size).length_eq, live, List.length_filterMap_eq_countP,
    List.countP_eq_length_filter]

/-! ## The log of a ring -/

/-- The log fits the slots, and the slots hold `items`. -/
structure Accounts (log : List (Access α)) (r : Ring α) (items : List α) (head : Nat) : Prop where
  holds : Holds r items head
  size : r.slots.size = r.config.capacity.toNat
  pending : ∀ i, r.valueIn i = Access.pending log i
  order : Access.written log = Access.read log ++ items
  orderly : Access.Orderly log

section

variable {log : List (Access α)}

theorem accounts_new (config : Config) (fits : config.Fits) :
    Accounts ([] : List (Access α)) (Ring.new config) [] 0 where
  holds := holds_new config fits
  size := by simp [Ring.new]
  pending := by
    intro i
    simp [valueIn, Ring.new, Access.pending]
  order := rfl
  orderly := Access.orderly_nil

theorem Accounts.count (h : Accounts log r items head) (f : Counters → Counters) :
    Accounts log (r.count f) items head where
  holds := h.holds.count f
  size := by rw [count_slots, count_config, h.size]
  pending := by
    intro i
    rw [valueIn, count_slots]
    exact h.pending i
  order := h.order
  orderly := h.orderly

theorem Accounts.put (h : Accounts log r items head)
    (room : items.length < r.config.capacity.toNat) (a : α) :
    Accounts (log ++ [.writes ((head + items.length) % r.config.capacity.toNat) a]) (r.put a)
      (items ++ [a]) head where
  holds := h.holds.put room a
  size := (put_size r a).trans h.size
  pending := by
    intro i
    rw [h.holds.valueIn_put room, Access.pending_snoc, Access.leaves, h.pending]
  order := by
    rw [Access.written_append, Access.read_append, h.order, List.append_assoc, List.append_assoc]
    rfl
  orderly := by
    refine h.orderly.snoc ?_
    rw [Access.IsDue, ← h.pending, h.holds.valueIn_window room]
    exact List.getElem?_eq_none (Nat.le_refl _)

theorem Accounts.dropOldest {a : α} (h : Accounts log r (a :: items) head) :
    Accounts (log ++ [.reads (head % r.config.capacity.toNat) (some a)]) r.dropOldest items
      (head + 1) where
  holds := h.holds.dropOldest
  size := (dropOldest_size r).trans h.size
  pending := by
    intro i
    rw [h.holds.valueIn_dropOldest, Access.pending_snoc, Access.leaves, h.pending]
  order := by
    rw [Access.written_append, Access.read_append, h.order]
    simp [Access.written, Access.read]
  orderly := by
    refine h.orderly.snoc ⟨rfl, ?_⟩
    have first := h.holds.valueIn_window r.config.capacity_toNat_pos
    rw [Nat.add_zero] at first
    rw [← h.pending, first]
    rfl

/-- The log of a ring that one thread can come by fits its slots. -/
theorem Logged.accounts {config : Config} (fits : config.Fits) (h : Logged config log r) :
    ∃ items head, Accounts log r items head := by
  induction h with
  | new => exact ⟨[], 0, accounts_new config fits⟩
  | @tryPush log r a _ ih =>
      obtain ⟨items, head, accounts⟩ := ih
      have holds := accounts.holds
      rcases Nat.lt_or_ge items.length r.config.capacity.toNat with room | hge
      · rw [holds.tryPush_of_room room, holds.accesses_push_of_room room]
        have counted := (accounts.put room a).count fun c => { c with pushed := c.pushed + 1 }
        exact ⟨_, head, counted⟩
      · have full := Nat.le_antisymm holds.bounded hge
        rw [holds.tryPush_of_full full, holds.accesses_push_of_full full, List.append_nil]
        have counted := accounts.count fun c => { c with rejected := c.rejected + 1 }
        exact ⟨items, head, counted⟩
  | @takeOldest log r _ ih =>
      obtain ⟨items, head, accounts⟩ := ih
      have holds := accounts.holds
      cases items with
      | nil =>
          rw [holds.takeOldest_of_nil, holds.accesses_pop_of_nil, List.append_nil]
          exact ⟨[], head, accounts⟩
      | cons a items =>
          rw [holds.takeOldest_of_cons, holds.accesses_pop_of_cons]
          exact ⟨items, head + 1, accounts.dropOldest⟩
  | count f _ ih =>
      obtain ⟨items, head, accounts⟩ := ih
      exact ⟨items, head, accounts.count f⟩

end

/-! ## What operations write and read -/

/-- From any log that led to `r`, accesses lead on to `s` that write `stored` and read `taken`. -/
def Moves (config : Config) (r : Ring α) (stored taken : List α) (s : Ring α) : Prop :=
  ∀ log, Logged config log r → ∃ more, Logged config (log ++ more) s ∧
    Access.written more = stored ∧ Access.read more = taken

section

variable {config : Config} {s t : Ring α} {stored stored' taken taken' : List α}

theorem Moves.refl (r : Ring α) : Moves config r [] [] r := by
  intro log logged
  exact ⟨[], (List.append_nil log).symm ▸ logged, rfl, rfl⟩

theorem Moves.trans (first : Moves config r stored taken s)
    (second : Moves config s stored' taken' t) :
    Moves config r (stored ++ stored') (taken ++ taken') t := by
  intro log logged
  obtain ⟨more, logged, rfl, rfl⟩ := first log logged
  obtain ⟨more', logged, rfl, rfl⟩ := second _ logged
  rw [List.append_assoc] at logged
  exact ⟨more ++ more', logged, Access.written_append .., Access.read_append ..⟩

theorem Moves.count (h : Moves config r stored taken s) (f : Counters → Counters) :
    Moves config r stored taken (s.count f) := by
  intro log logged
  obtain ⟨more, logged, written, read⟩ := h log logged
  exact ⟨more, logged.count f, written, read⟩

theorem Reached.moves_tryPush (fits : config.Fits) (h : Reached config r) (a : α) :
    (∃ s, r.tryPush a = (s, .stored) ∧ Reached config s ∧ Moves config r [a] [] s) ∨
    (∃ s, r.tryPush a = (s, .refused a) ∧ Reached config s ∧ Moves config r [] [] s) := by
  obtain ⟨items, head, holds⟩ := h.holds fits
  have pushed := h.tryPush a
  rcases Nat.lt_or_ge items.length r.config.capacity.toNat with room | hge
  · have tried := holds.tryPush_of_room room a
    rw [tried] at pushed
    refine .inl ⟨_, tried, pushed, fun log logged => ?_⟩
    have next := logged.tryPush a
    rw [tried, holds.accesses_push_of_room room] at next
    exact ⟨_, next, rfl, rfl⟩
  · have full := Nat.le_antisymm holds.bounded hge
    have tried := holds.tryPush_of_full full a
    rw [tried] at pushed
    refine .inr ⟨_, tried, pushed, fun log logged => ?_⟩
    have next := logged.tryPush a
    rw [tried, holds.accesses_push_of_full full] at next
    exact ⟨_, next, rfl, rfl⟩

theorem Reached.moves_takeOldest (fits : config.Fits) (h : Reached config r) :
    (∃ s a, r.takeOldest = (s, .taken a) ∧ Reached config s ∧ Moves config r [] [a] s) ∨
    r.takeOldest = (r, .empty) := by
  obtain ⟨items, head, holds⟩ := h.holds fits
  have next := h.takeOldest
  cases items with
  | nil => exact .inr holds.takeOldest_of_nil
  | cons a items =>
      have took := holds.takeOldest_of_cons
      rw [took] at next
      refine .inl ⟨_, a, took, next, fun log logged => ?_⟩
      have next := logged.takeOldest
      rw [took, holds.accesses_pop_of_cons] at next
      exact ⟨_, next, rfl, rfl⟩

/-- Every record gets an answer. -/
theorem length_pushAll (r : Ring α) (records : List α) :
    (r.pushAll records).2.length = records.length := by
  induction records generalizing r with
  | nil => rfl
  | cons a records ih => exact congrArg (· + 1) (ih _)

theorem Reached.moves_pushAll (fits : config.Fits) (h : Reached config r) (records : List α) :
    Moves config r (answeredWith true records (r.pushAll records).2) []
      (r.pushAll records).1 := by
  induction records generalizing r with
  | nil => exact Moves.refl r
  | cons a records ih =>
      rcases h.moves_tryPush fits a with ⟨s, tried, next, moves⟩ | ⟨s, tried, next, moves⟩
      · simp only [Ring.pushAll, push, tried, answeredWith_cons_self]
        exact moves.trans (ih next)
      · simp only [Ring.pushAll, push, tried, answeredWith_cons_of_ne Bool.false_ne_true]
        exact moves.trans (ih next)

/-- An evicting push writes what its callback stored and then the record offered, unless it
unwinds, and reads what it evicts. -/
theorem Reached.moves_evictRounds (fits : config.Fits) (h : Reached config r) (a : α)
    (rounds : Nat) (reactions : List (Reaction α)) :
    Moves config r
      (answeredWith true (pushesOf reactions (Ring.evictRounds a rounds r reactions).evicted.length)
          (Ring.evictRounds a rounds r reactions).accepted
        ++ if (Ring.evictRounds a rounds r reactions).ending = .returned then [a] else [])
      (Ring.evictRounds a rounds r reactions).evicted
      (Ring.evictRounds a rounds r reactions).ring := by
  induction rounds generalizing r reactions with
  | zero => exact Moves.refl r
  | succ rounds ih =>
      rcases h.moves_tryPush fits a with ⟨s, tried, next, moves⟩ | ⟨s, tried, next, moves⟩
      · rw [evictRounds_succ, tried]
        exact moves
      · rcases next.moves_takeOldest fits with ⟨s', old, took, left, taking⟩ | took
        · have evicted := (moves.trans taking).count fun c => { c with evicted := c.evicted + 1 }
          have reached := left.count fun c => { c with evicted := c.evicted + 1 }
          have pushed := reached.moves_pushAll fits (reactions.headD Reaction.quiet).pushes
          have first := evicted.trans pushed
          have answered := length_pushAll s'.countEvicted (reactions.headD Reaction.quiet).pushes
          have rest := ih (reached.pushAll (reactions.headD Reaction.quiet).pushes) reactions.tail
          rw [evictRounds_succ, tried]
          simp only [took]
          split
          · rw [List.length_singleton, pushesOf_succ, pushesOf_zero, List.append_nil]
            exact (List.append_nil _).symm ▸ first
          · simp only [List.length_cons, pushesOf_succ, answeredWith_append answered,
              List.append_assoc]
            exact first.trans rest
        · have rest := ih next reactions
          rw [evictRounds_succ, tried]
          simp only [took]
          exact moves.trans rest

/-- A bulk consumption writes what its handler stored and reads what it hands out. -/
theorem Reached.moves_consumeRounds (fits : config.Fits) (h : Reached config r)
    (handler : Nat → α → Reaction α) (n k : Nat) :
    Moves config r
      (answeredWith true (pushesFrom handler k (Ring.consumeRounds handler n k r).deliveries)
        (answersOf (Ring.consumeRounds handler n k r).deliveries))
      (itemsOf (Ring.consumeRounds handler n k r).deliveries)
      (Ring.consumeRounds handler n k r).ring := by
  induction n generalizing r k with
  | zero => exact Moves.refl r
  | succ n ih =>
      rcases h.moves_takeOldest fits with ⟨s, item, took, left, taking⟩ | took
      · have first := taking.trans (left.moves_pushAll fits (handler k item).pushes)
        have answered := length_pushAll s (handler k item).pushes
        have rest := ih (left.pushAll (handler k item).pushes) (k + 1)
        simp only [Ring.consumeRounds, took]
        split
        · simpa [pushesFrom, answersOf, itemsOf] using first
        · rw [pushesFrom_cons, answersOf, List.flatMap_cons, answeredWith_append answered, itemsOf,
            List.map_cons]
          exact first.trans rest
      · simp only [Ring.consumeRounds, took]
        exact Moves.refl r

theorem Reached.moves_consume (fits : config.Fits) (h : Reached config r) (n : Nat)
    (handler : Nat → α → Reaction α) :
    Moves config r
      (answeredWith true (pushesFrom handler 0 (r.consume n handler).deliveries)
        (answersOf (r.consume n handler).deliveries))
      (itemsOf (r.consume n handler).deliveries) (r.consume n handler).ring := by
  have rounds := h.moves_consumeRounds fits handler n 0
  simp only [Ring.consume]
  split
  · exact rounds.count fun c => { c with popped := c.popped + _ }
  · exact rounds

/-- A call, whatever its callback does, writes the records that it stores and reads those that it
hands out. -/
theorem Reached.moves_execute (fits : config.Fits) (h : Reached config r) (command : Command α) :
    Moves config r (r.execute command).flow.stored (r.execute command).flow.removed
      (r.execute command).ring := by
  cases command with
  | tryPush a =>
      rcases h.moves_tryPush fits a with ⟨s, tried, -, moves⟩ | ⟨s, tried, -, moves⟩
      · simp only [Ring.execute, tried]
        exact moves
      · simp only [Ring.execute, tried]
        exact moves
  | push a =>
      rcases h.moves_tryPush fits a with ⟨s, tried, -, moves⟩ | ⟨s, tried, -, moves⟩
      · simp only [Ring.execute, push, tried]
        exact moves
      · simp only [Ring.execute, push, tried]
        exact moves
  | offer a reactions =>
      cases policy : r.config.overflow with
      | dropOldest =>
          simp only [Ring.execute, offerReacting, policy]
          exact h.moves_evictRounds fits a _ reactions
      | dropNewest =>
          rcases h.moves_tryPush fits a with ⟨s, tried, -, moves⟩ | ⟨s, tried, next, moves⟩
          · simp only [Ring.execute, offerReacting, policy, tried]
            exact moves
          · simp only [Ring.execute, offerReacting, policy, tried, Flow.ofRefusal_false]
            exact moves.trans (next.moves_pushAll fits _)
  | pushEvicting a reactions => exact h.moves_evictRounds fits a _ reactions
  | pop =>
      rcases h.moves_takeOldest fits with ⟨s, a, took, -, moves⟩ | took
      · simp only [Ring.execute, pop, took]
        exact moves.count _
      · simp only [Ring.execute, pop, took]
        exact Moves.refl r
  | consume n handler =>
      simp only [Ring.execute, Flow.removed_ofConsumption]
      exact h.moves_consume fits n handler
  | consumeAll handler =>
      simp only [Ring.execute, Flow.removed_ofConsumption]
      exact h.moves_consume fits _ handler

theorem Moves.reached (moves : Moves config r stored taken s) (h : Reached config r) :
    Reached config s := by
  obtain ⟨log, logged⟩ := h.exists_log
  obtain ⟨more, next, -, -⟩ := moves log logged
  exact next.reached

theorem Reached.moves_executeAll (fits : config.Fits) (h : Reached config r)
    (commands : List (Command α)) :
    Moves config r (allOf (·.stored) (r.executeAll commands).2)
      (allOf (·.removed) (r.executeAll commands).2) (r.executeAll commands).1 := by
  induction commands generalizing r with
  | nil => exact Moves.refl r
  | cons command rest ih =>
      have first := h.moves_execute fits command
      exact first.trans (ih (first.reached h))

end

end

end Telemetry.Ring
