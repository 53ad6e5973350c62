import Mathlib.Data.List.Induction
import Telemetry.Proofs.Ring.Operations
import Telemetry.Ring.Exchange

set_option autoImplicit false

/-! # Nothing is lost between producers and consumers

Producers and consumers take their steps on one ring in any order. Between the refusal of a record
and the eviction that makes room for it, others may store and take, so that one offer may evict
several records, or none. What holds in spite of this is found in single steps: a step moves one
record, from the front of a producer's list to the end of the ring or to the dropped ones, or from
the front of the ring to a consumer or to the dropped ones. So the records stay the same as a whole,
and the records of one producer stay in order, behind each other in what a consumer has seen, in the
ring and in what is still to be offered. -/

namespace Telemetry.Ring.Exchange

variable {α : Type}

/-! ## Where the records are -/

/-- The records of an exchange, by where they are. -/
structure Whereabouts (α : Type) where
  /-- What each producer has still to offer. -/
  pending : List (List α)
  /-- What is in the ring, the oldest record first. -/
  queued : List α
  /-- What each consumer has taken. -/
  seen : List (List α)
  dropped : List α

/-- What a step does with the records. `drops` says whether it may drop one. -/
inductive Whereabouts.Moves (drops : Prop) : Whereabouts α → Whereabouts α → Prop where
  | stays {w : Whereabouts α} : Moves drops w w
  | stores {w : Whereabouts α} {i : Nat} {a : α} {rest : List α} :
      w.pending[i]? = some (a :: rest) →
      Moves drops w { w with pending := w.pending.set i rest, queued := w.queued ++ [a] }
  | refuses {w : Whereabouts α} {i : Nat} {a : α} {rest : List α} : drops →
      w.pending[i]? = some (a :: rest) →
      Moves drops w { w with pending := w.pending.set i rest, dropped := w.dropped ++ [a] }
  | evicts {w : Whereabouts α} {a : α} {queued : List α} : drops → w.queued = a :: queued →
      Moves drops w { w with queued := queued, dropped := w.dropped ++ [a] }
  | takes {w : Whereabouts α} {i : Nat} {a : α} {queued seen : List α} : w.queued = a :: queued →
      w.seen[i]? = some seen →
      Moves drops w { w with queued := queued, seen := w.seen.set i (seen ++ [a]) }

/-- Steps one after the other. -/
inductive Whereabouts.Run (drops : Prop) (w : Whereabouts α) : Whereabouts α → Prop where
  | nil : Run drops w w
  | snoc {v u : Whereabouts α} : Run drops w v → v.Moves drops u → Run drops w u

/-- The exchange has its records there, and as long as no record may be dropped, all producers try
again when one is refused. -/
structure Has (drops : Prop) (x : Exchange α) (w : Whereabouts α) : Prop where
  ring : ∃ head, Holds x.ring w.queued head
  pending : w.pending = x.producers.map (·.pending)
  seen : w.seen = x.consumers.map (·.seen)
  dropped : w.dropped = x.dropped
  only : ∀ p ∈ x.producers, p.retries = false ∨ p.isEvicting = true → drops

/-! ## Steps -/

section Steps

variable {drops : Prop} {x : Exchange α} {w : Whereabouts α} {i : Nat}

theorem Has.front (has : Has drops x w) {p : Producer α} (there : x.producers[i]? = some p) :
    w.pending[i]? = some p.pending := by
  simp [has.pending, there]

theorem Has.taken (has : Has drops x w) {c : Consumer α} (there : x.consumers[i]? = some c) :
    w.seen[i]? = some c.seen := by
  simp [has.seen, there]

/-- A producer that comes to drop records is one that did not try again before. -/
theorem Has.only_set (has : Has drops x w) {p q : Producer α} (there : x.producers[i]? = some p)
    (why : q.retries = false ∨ q.isEvicting = true → p.retries = false ∨ p.isEvicting = true) :
    ∀ p' ∈ x.producers.set i q, p'.retries = false ∨ p'.isEvicting = true → drops := by
  intro p' member cause
  rcases List.mem_or_eq_of_mem_set member with old | rfl
  · exact has.only p' old cause
  · exact has.only p (List.mem_of_getElem? there) (why cause)

theorem set_of_getElem? {β : Type} {list : List β} {b : β} (there : list[i]? = some b) :
    list.set i b = list := by
  obtain ⟨inside, rfl⟩ := List.getElem?_eq_some_iff.1 there
  exact List.set_getElem_self inside

/-- A consumer that has not taken anything new is where it was. -/
theorem map_seen_set {consumers : List (Consumer α)} {c d : Consumer α}
    (there : consumers[i]? = some c) (same : d.seen = c.seen) :
    (consumers.set i d).map (·.seen) = consumers.map (·.seen) := by
  rw [List.map_set, same]
  exact set_of_getElem? (by simp [there])

/-- A producer that has its records still to offer is where it was. -/
theorem map_pending_set {producers : List (Producer α)} {p q : Producer α}
    (there : producers[i]? = some p) (same : q.pending = p.pending) :
    (producers.set i q).map (·.pending) = producers.map (·.pending) := by
  rw [List.map_set, same]
  exact set_of_getElem? (by simp [there])

theorem Has.offer (has : Has drops x w) {a : α} {rest : List α} {retries : Bool}
    (there : x.producers[i]? = some ⟨a :: rest, retries, false⟩) :
    ∃ w', w.Moves drops w' ∧ Has drops (x.offer i ⟨a :: rest, retries, false⟩ a rest) w' := by
  obtain ⟨head, holds⟩ := has.ring
  rcases Nat.lt_or_ge w.queued.length x.ring.config.capacity.toNat with room | full
  · refine ⟨_, .stores (has.front there), ?_⟩
    simp only [Exchange.offer, holds.tryPush_of_room room]
    refine ⟨⟨head, (holds.put room a).countPushed⟩, ?_, has.seen, has.dropped,
      has.only_set there id⟩
    simp [setProducer, has.pending, List.map_set]
  · have full := Nat.le_antisymm holds.bounded full
    have ring : ∃ head, Holds x.ring.countRejected w.queued head := ⟨head, holds.countRejected⟩
    simp only [Exchange.offer, holds.tryPush_of_full full]
    cases retries with
    | true => exact ⟨w, .stays, ring, has.pending, has.seen, has.dropped, has.only⟩
    | false =>
        have drop : drops := has.only _ (List.mem_of_getElem? there) (.inl rfl)
        cases x.ring.countRejected.config.overflow with
        | dropNewest =>
            refine ⟨_, .refuses drop (has.front there), ring, ?_, has.seen, ?_,
              has.only_set there id⟩
            · simp [setProducer, has.pending, List.map_set]
            · simp [setProducer, has.dropped]
        | dropOldest =>
            have pending := has.pending.trans
              (map_pending_set there (q := ⟨a :: rest, false, true⟩) rfl).symm
            exact ⟨w, .stays, ring, pending, has.seen, has.dropped,
              has.only_set there fun _ => .inl rfl⟩

theorem Has.evict (has : Has drops x w) {p : Producer α} (there : x.producers[i]? = some p)
    (evicts : p.isEvicting = true) :
    ∃ w', w.Moves drops w' ∧ Has drops (x.evict i p) w' := by
  obtain ⟨head, holds⟩ := has.ring
  have drop : drops := has.only p (List.mem_of_getElem? there) (.inr evicts)
  have pending := has.pending.trans
    (map_pending_set there (q := { p with isEvicting := false }) rfl).symm
  have only := has.only_set there (q := { p with isEvicting := false }) fun _ => .inr evicts
  cases queue : w.queued with
  | nil =>
      rw [queue] at holds
      simp only [Exchange.evict, holds.takeOldest_of_nil]
      exact ⟨w, .stays, has.ring, pending, has.seen, has.dropped, only⟩
  | cons old queued =>
      rw [queue] at holds
      simp only [Exchange.evict, holds.takeOldest_of_cons]
      refine ⟨_, .evicts drop queue, ⟨head + 1, holds.dropOldest.countEvicted⟩, pending, has.seen,
        ?_, only⟩
      simp [setProducer, has.dropped]

theorem Has.pop (has : Has drops x w) {seen : List α}
    (there : x.consumers[i]? = some ⟨seen, none⟩) :
    ∃ w', w.Moves drops w' ∧ Has drops (x.pop i seen) w' := by
  obtain ⟨head, holds⟩ := has.ring
  cases queue : w.queued with
  | nil =>
      rw [queue] at holds
      simp only [Exchange.pop, Ring.pop, holds.takeOldest_of_nil]
      exact ⟨w, .stays, has.ring, has.pending, has.seen, has.dropped, has.only⟩
  | cons a queued =>
      rw [queue] at holds
      simp only [Exchange.pop, Ring.pop, holds.takeOldest_of_cons]
      refine ⟨_, .takes queue (has.taken there), ⟨head + 1, holds.dropOldest.countPopped 1⟩,
        has.pending, ?_, has.dropped, has.only⟩
      simp [setConsumer, has.seen, List.map_set]

theorem Has.consume (has : Has drops x w) {seen : List α} {left taken : Nat}
    (there : x.consumers[i]? = some ⟨seen, some (left, taken)⟩) :
    ∃ w', w.Moves drops w' ∧ Has drops (x.consume i seen left taken) w' := by
  obtain ⟨head, holds⟩ := has.ring
  have seen' := has.seen.trans (map_seen_set there (d := ⟨seen, none⟩) rfl).symm
  cases left with
  | zero =>
      have counted := holds.countPopped taken.toUInt64
      exact ⟨w, .stays, ⟨head, counted⟩, has.pending, seen', has.dropped, has.only⟩
  | succ left =>
      cases queue : w.queued with
      | nil =>
          rw [queue] at holds
          simp only [Exchange.consume, holds.takeOldest_of_nil]
          have counted := holds.countPopped taken.toUInt64
          exact ⟨w, .stays, ⟨head, queue ▸ counted⟩, has.pending, seen', has.dropped, has.only⟩
      | cons a queued =>
          rw [queue] at holds
          simp only [Exchange.consume, holds.takeOldest_of_cons]
          refine ⟨_, .takes queue (has.taken there), ⟨head + 1, holds.dropOldest⟩, has.pending,
            ?_, has.dropped, has.only⟩
          simp [setConsumer, has.seen, List.map_set]

/-- A step moves one record at most. -/
theorem Has.step (has : Has drops x w) (turn : Turn) :
    ∃ w', w.Moves drops w' ∧ Has drops (x.step turn) w' := by
  have idle : ∃ w', w.Moves drops w' ∧ Has drops x w' := ⟨w, .stays, has⟩
  cases turn with
  | producer i =>
      simp only [Exchange.step]
      split
      · rename_i a rest retries there
        exact has.offer there
      · rename_i a rest retries there
        exact has.evict there rfl
      · exact idle
  | pops i =>
      simp only [Exchange.step]
      split
      · rename_i seen there
        exact has.pop there
      · exact idle
  | consumes i n =>
      simp only [Exchange.step]
      split
      · rename_i seen there
        have seen' := has.seen.trans (map_seen_set there (d := ⟨seen, some (n, 0)⟩) rfl).symm
        exact ⟨w, .stays, has.ring, has.pending, seen', has.dropped, has.only⟩
      · exact idle
  | consumer i =>
      simp only [Exchange.step]
      split
      · rename_i seen left taken there
        exact has.consume there
      · exact idle

theorem Has.run (has : Has drops x w) (turns : List Turn) :
    ∃ w', w.Run drops w' ∧ Has drops (x.run turns) w' := by
  induction turns using List.reverseRecOn with
  | nil => exact ⟨w, .nil, has⟩
  | append_singleton turns turn ih =>
      obtain ⟨v, run, has'⟩ := ih
      obtain ⟨u, moves, next⟩ := has'.step turn
      refine ⟨u, .snoc run moves, ?_⟩
      rwa [Exchange.run, List.foldl_append]

end Steps

/-! ## What stays -/

section Whereabouts

variable {drops : Prop} {w v u : Whereabouts α}

/-- All records. -/
def Whereabouts.all (w : Whereabouts α) : List α :=
  w.seen.flatten ++ w.dropped ++ w.queued ++ w.pending.flatten

theorem perm_flatten_set {lists : List (List α)} {i : Nat} (inside : i < lists.length)
    (list : List α) : (lists.set i list).flatten.Perm (list ++ (lists.eraseIdx i).flatten) := by
  induction lists generalizing i with
  | nil => cases inside
  | cons first lists ih =>
      cases i with
      | zero => simp
      | succ i =>
          simp only [List.set_cons_succ, List.eraseIdx_cons_succ, List.flatten_cons]
          refine ((ih (Nat.lt_of_succ_lt_succ inside)).append_left first).trans ?_
          rw [← List.append_assoc, ← List.append_assoc]
          exact List.perm_append_comm.append_right _

/-- If one of the lists loses its first record, so do all of them together. -/
theorem perm_flatten_of_cons {lists : List (List α)} {i : Nat} {a : α} {rest : List α}
    (there : lists[i]? = some (a :: rest)) :
    lists.flatten.Perm (a :: (lists.set i rest).flatten) := by
  have inside := (List.getElem?_eq_some_iff.1 there).1
  have before := perm_flatten_set inside (a :: rest)
  rw [set_of_getElem? there] at before
  exact before.trans ((perm_flatten_set inside rest).symm.cons a)

/-- If one of the lists gets a record at its end, so do all of them together. -/
theorem perm_flatten_of_append {lists : List (List α)} {i : Nat} {list : List α}
    (there : lists[i]? = some list) (a : α) :
    (lists.set i (list ++ [a])).flatten.Perm (a :: lists.flatten) := by
  have inside := (List.getElem?_eq_some_iff.1 there).1
  have before := perm_flatten_set inside list
  rw [set_of_getElem? there] at before
  refine (perm_flatten_set inside _).trans ?_
  rw [List.append_assoc]
  exact List.perm_middle.trans (before.symm.cons a)

/-- A step keeps all records. -/
theorem Whereabouts.Moves.perm (moves : w.Moves drops v) : v.all.Perm w.all := by
  classical
  rw [List.perm_iff_count]
  intro b
  cases moves with
  | stays => rfl
  | stores there | refuses _ there =>
      have := (perm_flatten_of_cons there).count_eq b
      simp only [all, List.count_append, List.count_cons, List.count_nil] at this ⊢
      omega
  | evicts _ queue =>
      simp only [all, queue, List.count_append, List.count_cons, List.count_nil]
      omega
  | @takes _ a _ _ queue there =>
      have := (perm_flatten_of_append there a).count_eq b
      simp only [all, queue, List.count_append, List.count_cons] at this ⊢
      omega

theorem Whereabouts.Run.perm (run : w.Run drops v) : v.all.Perm w.all := by
  induction run with
  | nil => exact List.Perm.refl _
  | snoc _ moves ih => exact moves.perm.trans ih

theorem Whereabouts.Run.dropped (run : w.Run drops v) (never : ¬drops) : v.dropped = w.dropped := by
  induction run with
  | nil => rfl
  | snoc _ moves ih =>
      cases moves with
      | stays | stores | takes => exact ih
      | refuses drop | evicts drop => exact absurd drop never

end Whereabouts

/-! ## The order of each producer's records -/

section Order

variable {drops : Prop} {w v : Whereabouts α} {source rank : α → Nat}

/-- `a` may come before `b`: they are from different producers, or in order. -/
def Precedes (source rank : α → Nat) (a b : α) : Prop :=
  source a = source b → rank a < rank b

/-- The records of each producer are in order, those in the ring behind those that a consumer has
seen, and those still to be offered behind all of these. -/
structure InOrder (source rank : α → Nat) (w : Whereabouts α) : Prop where
  tagged : ∀ (i : Nat) (list : List α), w.pending[i]? = some list → ∀ a ∈ list, source a = i
  ascends : ∀ (i : Nat) (list : List α), w.pending[i]? = some list →
    list.Pairwise (Precedes source rank)
  stored : ∀ seen ∈ w.seen, (seen ++ w.queued).Pairwise (Precedes source rank)
  behind : ∀ a ∈ w.seen.flatten ++ w.queued, ∀ (i : Nat) (list : List α),
    w.pending[i]? = some list → ∀ b ∈ list, Precedes source rank a b

/-- The lists of the producers, when number `i` is at the next record. -/
theorem getElem?_of_set {lists : List (List α)} {i j : Nat} {a : α} {rest list : List α}
    (there : lists[i]? = some (a :: rest)) (here : (lists.set i rest)[j]? = some list) :
    ∃ list', lists[j]? = some list' ∧ list.Sublist list' := by
  by_cases same : i = j
  · subst same
    rw [List.getElem?_set_self (List.getElem?_eq_some_iff.1 there).1] at here
    cases here
    exact ⟨_, there, List.sublist_cons_self a rest⟩
  · rw [List.getElem?_set_ne same] at here
    exact ⟨list, here, List.Sublist.refl list⟩

/-- The order of what is still to be offered stays when a producer comes to its next record. -/
theorem InOrder.next (order : InOrder source rank w) {i : Nat} {a : α} {rest dropped : List α}
    (there : w.pending[i]? = some (a :: rest)) :
    InOrder source rank { w with pending := w.pending.set i rest, dropped := dropped } where
  tagged j list here b member := by
    obtain ⟨list', old, part⟩ := getElem?_of_set there here
    exact order.tagged j list' old b (part.subset member)
  ascends j list here := by
    obtain ⟨list', old, part⟩ := getElem?_of_set there here
    exact (order.ascends j list' old).sublist part
  stored := order.stored
  behind b before j list here d member := by
    obtain ⟨list', old, part⟩ := getElem?_of_set there here
    exact order.behind b before j list' old d (part.subset member)

/-- The next record of a producer precedes those that it, or any other one, has still to offer. -/
theorem InOrder.precedes_next (order : InOrder source rank w) {i j : Nat} {a : α}
    {rest list : List α} (there : w.pending[i]? = some (a :: rest))
    (here : (w.pending.set i rest)[j]? = some list) : ∀ b ∈ list, Precedes source rank a b := by
  intro b member
  by_cases same : i = j
  · subst same
    rw [List.getElem?_set_self (List.getElem?_eq_some_iff.1 there).1] at here
    cases here
    exact List.rel_of_pairwise_cons (order.ascends i _ there) member
  · rw [List.getElem?_set_ne same] at here
    intro sources
    have first := order.tagged i _ there a List.mem_cons_self
    have second := order.tagged j _ here b member
    omega

theorem InOrder.stores (order : InOrder source rank w) {i : Nat} {a : α} {rest : List α}
    (there : w.pending[i]? = some (a :: rest)) :
    InOrder source rank
      { w with pending := w.pending.set i rest, queued := w.queued ++ [a] } := by
  have next : InOrder source rank { w with pending := w.pending.set i rest } := order.next there
  refine ⟨next.tagged, next.ascends, ?_, ?_⟩
  · intro seen member
    rw [← List.append_assoc, List.pairwise_append]
    refine ⟨order.stored seen member, List.pairwise_singleton .., ?_⟩
    intro b before d last
    rw [List.mem_singleton.1 last]
    refine order.behind b ?_ i _ there a List.mem_cons_self
    rcases List.mem_append.1 before with old | queued
    · exact List.mem_append_left _ (List.mem_flatten.2 ⟨seen, member, old⟩)
    · exact List.mem_append_right _ queued
  · intro b before j list here d member
    rw [← List.append_assoc] at before
    rcases List.mem_append.1 before with old | last
    · exact next.behind b old j list here d member
    · rw [List.mem_singleton.1 last]
      exact order.precedes_next there here d member

/-- Taking a record out of the ring, for nobody. -/
theorem InOrder.evicts (order : InOrder source rank w) {a : α} {queued dropped : List α}
    (queue : w.queued = a :: queued) :
    InOrder source rank { w with queued := queued, dropped := dropped } where
  tagged := order.tagged
  ascends := order.ascends
  stored seen member := by
    have stored := order.stored seen member
    rw [queue] at stored
    exact stored.sublist ((List.sublist_cons_self a queued).append_left seen)
  behind b before := by
    refine order.behind b ?_
    rw [queue]
    exact ((List.sublist_cons_self a queued).append_left _).subset before

theorem InOrder.takes (order : InOrder source rank w) {i : Nat} {a : α} {queued seen : List α}
    (queue : w.queued = a :: queued) (there : w.seen[i]? = some seen) :
    InOrder source rank
      { w with queued := queued, seen := w.seen.set i (seen ++ [a]) } := by
  have evicted : InOrder source rank { w with queued := queued } := order.evicts queue
  refine ⟨order.tagged, order.ascends, ?_, ?_⟩
  · intro seen' member
    rcases List.mem_or_eq_of_mem_set member with old | rfl
    · exact evicted.stored seen' old
    · -- what this consumer has seen and what is in the ring are the same records as before
      have stored := order.stored seen (List.mem_of_getElem? there)
      rwa [queue, List.append_cons] at stored
  · intro b before
    refine order.behind b ?_
    rw [queue]
    have moved : (w.seen.flatten ++ a :: queued).Perm
        ((w.seen.set i (seen ++ [a])).flatten ++ queued) :=
      List.perm_middle.trans ((perm_flatten_of_append there a).symm.append_right queued)
    exact moved.mem_iff.2 before

theorem InOrder.moves (order : InOrder source rank w) (moves : w.Moves drops v) :
    InOrder source rank v := by
  cases moves with
  | stays => exact order
  | stores there => exact order.stores there
  | refuses _ there => exact order.next there
  | evicts _ queue => exact order.evicts queue
  | takes queue there => exact order.takes queue there

theorem InOrder.run (order : InOrder source rank w) (run : w.Run drops v) :
    InOrder source rank v := by
  induction run with
  | nil => exact order
  | snoc _ moves ih => exact ih.moves moves

theorem ascends_of_pairwise {list : List α} (order : list.Pairwise (Precedes source rank)) :
    ascends source rank list = true := by
  induction order with
  | nil => rfl
  | @cons a list first _ ih =>
      simp only [Exchange.ascends, Bool.and_eq_true, List.all_eq_true]
      refine ⟨fun b member => ?_, ih⟩
      by_cases same : source a = source b
      · simp [first b member same]
      · simp [same]

end Order

/-! ## The end of an exchange -/

section End

variable {config : Config} {supplies : List (Supply α)} {source rank : α → Nat} {drops : Prop}
  {x : Exchange α} {w : Whereabouts α}

/-- Where the records are at first. -/
def Whereabouts.start (supplies : List (Supply α)) (consumers : Nat) : Whereabouts α where
  pending := supplies.map (·.records)
  queued := []
  seen := List.replicate consumers []
  dropped := []

theorem has_start (fits : config.Fits) (supplies : List (Supply α)) (consumers : Nat) :
    Has (∃ s ∈ supplies, s.retries = false) (start config supplies consumers)
      (Whereabouts.start supplies consumers) where
  ring := ⟨0, holds_new config fits⟩
  pending := by simp [Whereabouts.start, Exchange.start]
  seen := by simp [Whereabouts.start, Exchange.start]
  dropped := rfl
  only p member why := by
    obtain ⟨s, there, rfl⟩ := List.mem_map.1 member
    rcases why with no | evicting
    · exact ⟨s, there, no⟩
    · cases evicting

theorem inOrder_start (tagged : ∀ i s, supplies[i]? = some s → ∀ a ∈ s.records, source a = i)
    (ascending : ∀ s ∈ supplies, s.records.Pairwise (rank · < rank ·)) (consumers : Nat) :
    InOrder source rank (Whereabouts.start supplies consumers) where
  tagged i list there := by
    simp only [Whereabouts.start, List.getElem?_map, Option.map_eq_some_iff] at there
    obtain ⟨s, here, rfl⟩ := there
    exact tagged i s here
  ascends i list there := by
    obtain ⟨s, member, rfl⟩ := List.mem_map.1 (List.mem_of_getElem? there)
    refine (ascending s member).imp fun less => ?_
    intro _
    exact less
  stored seen member := by
    rw [List.eq_of_mem_replicate member]
    exact .nil
  behind a before := by
    simp [Whereabouts.start] at before

/-- Draining takes out what is in the ring, in its order, and leaves an empty one. -/
theorem Has.drain (has : Has drops x w) :
    x.drain.1 = w.queued ∧ x.drain.2.ring.length = 0 := by
  obtain ⟨head, holds⟩ := has.ring
  obtain ⟨-, items, -, head', empty⟩ := holds.consume_collect x.ring.config.capacity.toNat
  rw [List.take_of_length_le holds.bounded] at items
  rw [List.drop_of_length_le holds.bounded] at empty
  exact ⟨items, UInt64.toNat_inj.1 empty.length_eq⟩

/-- Once every producer has offered all its records, they are all handled. -/
theorem Has.handled (has : Has drops x w) (offered : x.isOffered = true) : x.handled = w.all := by
  have none : w.pending.flatten = [] := by
    rw [has.pending, List.flatten_eq_nil_iff]
    intro list member
    obtain ⟨p, there, rfl⟩ := List.mem_map.1 member
    exact List.isEmpty_iff.1 (List.all_eq_true.1 offered p there)
  rw [Exchange.handled, has.drain.1, Whereabouts.all, none, List.append_nil, has.seen, has.dropped]

/-- **Nothing is lost, made up or reordered between producers and consumers.** Any number of
producers offer their records to a ring of any policy and of any capacity that memory has room for,
each one trying again when a record is refused or leaving that to the policy; any number of
consumers take records out, one at a time or up to a bound. In whatever order they take their steps,
once every producer is done and what is left is taken out, the records that were consumed, dropped
or left are those that were offered, each as often. Nothing is dropped if all producers try again,
the ring is empty, and every consumer has seen the records of each producer in order. -/
theorem exchange_conserves (fits : config.capacity.toNat + 1 ≤ 2 ^ 63)
    (tagged : ∀ i s, supplies[i]? = some s → ∀ a ∈ s.records, source a = i)
    (ascending : ∀ s ∈ supplies, s.records.Pairwise (rank · < rank ·)) (consumers : Nat)
    (turns : List Turn)
    (offered : ((start config supplies consumers).run turns).isOffered = true) :
    ((start config supplies consumers).run turns).handled.Perm
        (supplies.map (·.records)).flatten
    ∧ ((∀ s ∈ supplies, s.retries = true) →
        ((start config supplies consumers).run turns).dropped = [])
    ∧ ((start config supplies consumers).run turns).drain.2.ring.length = 0
    ∧ ((start config supplies consumers).run turns).keepsOrder source rank = true := by
  obtain ⟨w, run, has⟩ := (has_start fits supplies consumers).run turns
  refine ⟨?_, ?_, has.drain.2, ?_⟩
  · rw [has.handled offered]
    refine run.perm.trans ?_
    rw [Whereabouts.all, Whereabouts.start]
    simp
  · intro retrying
    rw [← has.dropped]
    refine run.dropped ?_
    rintro ⟨s, there, no⟩
    rw [retrying s there] at no
    cases no
  · have order := (inOrder_start tagged ascending consumers).run run
    refine List.all_eq_true.2 fun c member => ascends_of_pairwise ?_
    have seen : c.seen ∈ w.seen := has.seen ▸ List.mem_map_of_mem member
    exact (order.stored c.seen seen).sublist (List.sublist_append_left ..)

end End

/-- Two producers; the second one tries again when a record is refused. -/
def twoSupplies : List (Supply (Nat × Nat)) :=
  [⟨[(0, 1), (0, 2)], false⟩, ⟨[(1, 1)], true⟩]

/-- The first producer finds no room for its second record and is about to evict the first. Before
it does, that one is consumed and the other producer stores its record, which is evicted. -/
def evictAnother : List Turn :=
  [.producer 0, .producer 0, .consumes 0 5, .consumer 0, .producer 1, .producer 0, .producer 0]

/-- The end of these steps on a ring of one slot with one consumer. -/
def anotherEvicted : Exchange (Nat × Nat) :=
  (start ⟨1, UInt64.zero_lt_one, .dropOldest, false⟩ twoSupplies 1).run evictAnother

theorem exchange_conserves_of_two :
    anotherEvicted.dropped = [(1, 1)]
    ∧ anotherEvicted.handled.Perm [(0, 1), (0, 2), (1, 1)]
    ∧ anotherEvicted.drain.2.ring.length = 0
    ∧ anotherEvicted.keepsOrder Prod.fst Prod.snd = true := by
  have tagged (i : Nat) (s : Supply (Nat × Nat)) (there : twoSupplies[i]? = some s) :
      ∀ a ∈ s.records, a.1 = i := by
    match i with
    | 0 | 1 =>
        cases there
        simp
    | i + 2 => cases there
  have ascending : ∀ s ∈ twoSupplies, s.records.Pairwise (·.2 < ·.2) := by
    simp [twoSupplies]
  have fits : (1 : UInt64).toNat + 1 ≤ 2 ^ 63 := by decide
  have offered : anotherEvicted.isOffered = true := by decide +kernel
  obtain ⟨handled, -, empty, order⟩ :=
    exchange_conserves fits tagged ascending 1 evictAnother offered
  exact ⟨by decide +kernel, handled, empty, order⟩

end Telemetry.Ring.Exchange
