import Telemetry.Proofs.Ring.Exchange

set_option autoImplicit false

/-! # When an eviction finds the ring full

A producer whose record was refused takes the oldest record out in a step of its own. The ring was
full when it refused the record; by the time of the eviction others may have taken records out, so
that a record is evicted although there is room. How much room there can be is bounded: no step
makes the records that are in the ring and those that have come out of it fewer, so what is missing
in the ring was taken out in between. -/

namespace Telemetry.Ring.Exchange

variable {α : Type}

/-! ## Records that came out -/

/-- The number of records that were consumed, refused or evicted so far. -/
def gone (x : Exchange α) : Nat :=
  (x.consumers.map (·.seen)).flatten.length + x.dropped.length

/-- The number of records that were offered so far. -/
def Whereabouts.offered (w : Whereabouts α) : Nat :=
  w.queued.length + w.seen.flatten.length + w.dropped.length

/-- A step never makes the offered records fewer. -/
theorem Whereabouts.Moves.offered_le {drops : Prop} {w v : Whereabouts α}
    (moves : w.Moves drops v) : w.offered ≤ v.offered := by
  cases moves with
  | stays => exact Nat.le_refl _
  | stores | refuses =>
      simp only [offered, List.length_append, List.length_singleton]
      omega
  | evicts _ queue =>
      simp only [offered, queue, List.length_append, List.length_cons, List.length_nil]
      omega
  | @takes _ a _ _ queue there =>
      have seen := (perm_flatten_of_append there a).length_eq
      simp only [offered, queue, seen, List.length_cons]
      omega

section

variable {drops : Prop} {x : Exchange α} {w : Whereabouts α} {i : Nat}

theorem Has.length_eq (has : Has drops x w) : x.ring.length.toNat = w.queued.length := by
  obtain ⟨head, holds⟩ := has.ring
  exact holds.length_eq

theorem Has.offered_eq (has : Has drops x w) : w.offered = x.ring.length.toNat + x.gone := by
  rw [has.length_eq, Whereabouts.offered, gone, ← has.seen, ← has.dropped, Nat.add_assoc]

theorem Has.step_le (has : Has drops x w) (turn : Turn) :
    x.ring.length.toNat + x.gone ≤ (x.step turn).ring.length.toNat + (x.step turn).gone := by
  obtain ⟨w', moves, has'⟩ := has.step turn
  rw [← has.offered_eq, ← has'.offered_eq]
  exact moves.offered_le

/-! ## Producers that are about to evict -/

/-- Producer number `i` is about to evict a record, to make room for its next one. -/
def AboutToEvict (x : Exchange α) (i : Nat) : Prop :=
  ∃ a rest retries, x.producers[i]? = some ⟨a :: rest, retries, true⟩

/-- Where one producer is replaced by one that is not about to evict, the others are so only if they
were so before. -/
theorem aboutToEvict_of_set {y : Exchange α} {j : Nat} {p : Producer α}
    (producers : y.producers = x.producers.set j p) (rests : p.isEvicting = false)
    (evicts : y.AboutToEvict i) : j ≠ i ∧ x.AboutToEvict i := by
  obtain ⟨a, rest, retries, there⟩ := evicts
  rw [producers, List.getElem?_set] at there
  by_cases same : j = i
  · rw [if_pos same] at there
    split at there <;> simp_all
  · rw [if_neg same] at there
    exact ⟨same, a, rest, retries, there⟩

/-- An attempt makes its producer about to evict only if the ring is full. -/
theorem Has.aboutToEvict_offer (has : Has drops x w) {j : Nat} {a : α} {rest : List α}
    {retries : Bool}
    (evicts : (x.offer j ⟨a :: rest, retries, false⟩ a rest).AboutToEvict i) :
    (j ≠ i ∧ x.AboutToEvict i) ∨ (j = i ∧ x.ring.isFull = true) := by
  obtain ⟨head, holds⟩ := has.ring
  rcases Nat.lt_or_ge w.queued.length x.ring.config.capacity.toNat with room | full
  · simp only [Exchange.offer, holds.tryPush_of_room room] at evicts
    exact .inl (aboutToEvict_of_set rfl rfl evicts)
  · have isFull : x.ring.isFull = true := by
      rw [holds.isFull_eq]
      exact decide_eq_true full
    simp only [Exchange.offer, holds.tryPush_of_full (Nat.le_antisymm holds.bounded full)] at evicts
    by_cases own : j = i
    · exact .inr ⟨own, isFull⟩
    · left
      cases retries with
      | true => exact ⟨own, evicts⟩
      | false =>
          cases policy : x.ring.countRejected.config.overflow with
          | dropNewest =>
              simp only [policy, Bool.false_eq_true, if_false] at evicts
              exact aboutToEvict_of_set rfl rfl evicts
          | dropOldest =>
              simp only [policy, Bool.false_eq_true, if_false] at evicts
              obtain ⟨b, more, tries, there⟩ := evicts
              simp only [setProducer, List.getElem?_set_ne own] at there
              exact ⟨own, b, more, tries, there⟩

theorem producers_evict (x : Exchange α) (j : Nat) (p : Producer α) :
    (x.evict j p).producers = x.producers.set j { p with isEvicting := false } := by
  unfold Exchange.evict
  split <;> rfl

/-- The producers stay as they are in a step of a consumer. -/
theorem producers_step (x : Exchange α) {turn : Turn} (other : ∀ j, turn ≠ .producer j) :
    (x.step turn).producers = x.producers := by
  cases turn with
  | producer j => exact absurd rfl (other j)
  | pops j =>
      simp only [Exchange.step, Exchange.pop]
      split
      · split <;> rfl
      · rfl
  | consumes j n =>
      simp only [Exchange.step]
      split <;> rfl
  | consumer j =>
      simp only [Exchange.step, Exchange.consume]
      split
      · split
        · rfl
        · split <;> rfl
      · rfl

/-- A producer that is about to evict was so before the step, which was not its own, or its record
is refused in this step, by a full ring. -/
theorem Has.aboutToEvict_step (has : Has drops x w) {turn : Turn}
    (evicts : (x.step turn).AboutToEvict i) :
    (turn ≠ .producer i ∧ x.AboutToEvict i) ∨ (turn = .producer i ∧ x.ring.isFull = true) := by
  by_cases other : ∀ j, turn ≠ .producer j
  · obtain ⟨a, rest, retries, there⟩ := evicts
    rw [producers_step x other] at there
    exact .inl ⟨other i, a, rest, retries, there⟩
  · push Not at other
    obtain ⟨j, rfl⟩ := other
    rw [Turn.producer.injEq, ne_eq, Turn.producer.injEq, ← ne_eq]
    simp only [Exchange.step] at evicts
    split at evicts
    · exact has.aboutToEvict_offer evicts
    · exact .inl (aboutToEvict_of_set (producers_evict x j _) rfl evicts)
    · rename_i noOffer noEviction
      refine .inl ⟨?_, evicts⟩
      rintro rfl
      obtain ⟨a, rest, retries, there⟩ := evicts
      exact noEviction a rest retries there

end

/-! ## Since the refusal -/

section

variable {config : Config} {supplies : List (Supply α)} {consumers i : Nat}

theorem run_snoc (x : Exchange α) (turns : List Turn) (turn : Turn) :
    x.run (turns ++ [turn]) = (x.run turns).step turn := by
  rw [run, List.foldl_append]
  rfl

/-- Behind a producer's eviction stands an attempt of that producer that found the ring full, its
last turn before. Since then the ring has become shorter by no more records than have come out of
it: if none has come out, the record is evicted from a ring that is as long as it was. -/
theorem evicts_behind_refusal (fits : config.capacity.toNat + 1 ≤ 2 ^ 63) (turns : List Turn)
    (evicts : ((start config supplies consumers).run turns).AboutToEvict i) :
    ∃ before between, turns = before ++ .producer i :: between ∧ .producer i ∉ between ∧
      ((start config supplies consumers).run before).ring.isFull = true ∧
      ((start config supplies consumers).run before).ring.length.toNat
          + ((start config supplies consumers).run before).gone
        ≤ ((start config supplies consumers).run turns).ring.length.toNat
          + ((start config supplies consumers).run turns).gone := by
  induction turns using List.reverseRecOn with
  | nil =>
      obtain ⟨a, rest, retries, there⟩ := evicts
      simp [run, start, List.getElem?_map] at there
  | append_singleton turns turn ih =>
      obtain ⟨w, -, has⟩ := (has_start fits supplies consumers).run turns
      have grows := has.step_le turn
      rw [run_snoc] at evicts ⊢
      rcases has.aboutToEvict_step evicts with ⟨other, earlier⟩ | ⟨rfl, full⟩
      · obtain ⟨before, between, split, none, full, shorter⟩ := ih earlier
        refine ⟨before, between ++ [turn], ?_, ?_, full, shorter.trans grows⟩
        · rw [split, List.append_assoc, List.cons_append]
        · simp [none, other.symm]
      · exact ⟨turns, [], rfl, List.not_mem_nil, full, grows⟩

end

/-- The producer finds no room for its third record. Before it evicts the first one, that one is
consumed. -/
def roomBeforeEviction : List Turn :=
  [.producer 0, .producer 0, .producer 0, .pops 0]

/-- A record may be evicted although there is room for the new one. -/
theorem evicts_with_room :
    ∃ x : Exchange Nat,
      (start ⟨2, by decide, .dropOldest, false⟩ [⟨[1, 2, 3], false⟩] 1).run roomBeforeEviction = x ∧
      x.ring.length = 1 ∧ x.dropped = [] ∧ (x.step (.producer 0)).dropped = [2] ∧
      (x.step (.producer 0)).ring.isEmpty = true :=
  ⟨_, rfl, by decide +kernel⟩

end Telemetry.Ring.Exchange
