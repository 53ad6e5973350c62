import Mathlib.Data.List.Perm.Basic
import Telemetry.Proofs.Ring.Callbacks

set_option autoImplicit false

/-! # Calls with any callbacks, and where the records go

A `Command` is a call of one thread together with everything its callback does. `execute` runs it
and says where each record went that had to do with it: stored, refused, handed to a consumer,
handed to an eviction callback, or destroyed because a panic passed through the call that offered
it. Whatever the callbacks do, records leave the queue at the front and are stored at its end. -/

namespace Telemetry.Ring

/-- A call of one thread, with what its callback does at each of its calls. -/
inductive Command (α : Type) where
  | tryPush (a : α)
  | push (a : α)
  | offer (a : α) (reactions : List (Reaction α))
  | pushEvicting (a : α) (reactions : List (Reaction α))
  | pop
  | consume (n : Nat) (handler : Nat → α → Reaction α)
  | consumeAll (handler : Nat → α → Reaction α)

/-- Where the records of a call went, in order. -/
structure Flow (α : Type) where
  /-- The record that was offered, and those that the callback pushed. -/
  offered : List α := []
  /-- Of these, the ones that the ring accepted. -/
  stored : List α := []
  /-- The ones that came back or were dropped because the ring was full. -/
  refused : List α := []
  /-- The ones that a panic destroyed before they were stored. -/
  destroyed : List α := []
  /-- Records taken out for a caller or handed to a handler. -/
  consumed : List α := []
  /-- Records taken out to make room and handed to a callback. -/
  evicted : List α := []

variable {α : Type}

namespace Flow

/-- Records that left the ring; a call evicts or consumes, never both. -/
def removed (f : Flow α) : List α :=
  f.consumed ++ f.evicted

/-- An attempt to store `a`. -/
def ofPush (a : α) (stored : Bool) : Flow α :=
  if stored then { offered := [a], stored := [a] } else { offered := [a], refused := [a] }

/-- An evicting push of `a` that handed out `evicted`. -/
def ofEviction (a : α) (reactions : List (Reaction α)) (evicted : List α) (accepted : List Bool)
    (ending : Ending) : Flow α :=
  let pushes := pushesOf reactions evicted.length
  { offered := a :: pushes
    stored := answeredWith true pushes accepted ++ if ending = .returned then [a] else []
    refused := answeredWith false pushes accepted
    destroyed := if ending = .returned then [] else [a]
    evicted := evicted }

/-- An offer of `a` whose callback is called with the record itself if it is refused. -/
def ofRefusal (a : α) (reactions : List (Reaction α)) (queued : Bool) (dropped : List α)
    (accepted : List Bool) : Flow α :=
  let pushes := pushesOf reactions dropped.length
  { offered := a :: pushes
    stored := (if queued then [a] else []) ++ answeredWith true pushes accepted
    refused := dropped ++ answeredWith false pushes accepted }

theorem ofRefusal_false (a : α) (reactions : List (Reaction α)) (accepted : List Bool) :
    ofRefusal a reactions false [a] accepted =
      { offered := a :: (reactions.headD Reaction.quiet).pushes
        stored := answeredWith true (reactions.headD Reaction.quiet).pushes accepted
        refused := a :: answeredWith false (reactions.headD Reaction.quiet).pushes accepted } := by
  rw [ofRefusal, List.length_singleton, pushesOf_succ, pushesOf_zero, List.append_nil]
  rfl

/-- A bulk consumption. -/
def ofConsumption (handler : Nat → α → Reaction α) (deliveries : List (Delivery α)) : Flow α :=
  let pushes := pushesFrom handler 0 deliveries
  { offered := pushes
    stored := answeredWith true pushes (answersOf deliveries)
    refused := answeredWith false pushes (answersOf deliveries)
    consumed := itemsOf deliveries }

theorem removed_ofConsumption (handler : Nat → α → Reaction α) (deliveries : List (Delivery α)) :
    (ofConsumption handler deliveries).removed = itemsOf deliveries :=
  List.append_nil _

end Flow

/-- What a call did: the ring it left, how it ended, and where the records went. -/
structure Outcome (α : Type) where
  ring : Ring α
  ending : Ending
  flow : Flow α

/-- Runs a call. -/
def execute (r : Ring α) : Command α → Outcome α
  | .tryPush a =>
    match r.tryPush a with
    | (s, .stored) => ⟨s, .returned, .ofPush a true⟩
    | (s, .refused b) => ⟨s, .returned, { offered := [a], refused := [b] }⟩
    | (s, .unsettled) => ⟨s, .unsettled, { offered := [a] }⟩
  | .push a => ⟨(r.push a).1, (r.tryPush a).2.ending, .ofPush a (r.push a).2⟩
  | .offer a reactions =>
    let o := r.offerReacting a reactions
    match r.config.overflow with
    | .dropNewest => ⟨o.ring, o.ending, .ofRefusal a reactions o.queued o.dropped o.accepted⟩
    | .dropOldest => ⟨o.ring, o.ending, .ofEviction a reactions o.dropped o.accepted o.ending⟩
  | .pushEvicting a reactions =>
    let e := r.pushEvicting a reactions
    ⟨e.ring, e.ending, .ofEviction a reactions e.evicted e.accepted e.ending⟩
  | .pop =>
    match r.pop with
    | (s, .taken a) => ⟨s, .returned, { consumed := [a] }⟩
    | (s, p) => ⟨s, p.ending, {}⟩
  | .consume n handler =>
    let c := r.consume n handler
    ⟨c.ring, c.ending, .ofConsumption handler c.deliveries⟩
  | .consumeAll handler =>
    let c := r.consumeAll handler
    ⟨c.ring, c.ending, .ofConsumption handler c.deliveries⟩

/-- An offer whose callback only takes what is dropped is one whose callback does nothing else. -/
theorem offer_eq_offerReacting (r : Ring α) (a : α) :
    r.offer a = ⟨(r.offerReacting a []).ring, (r.offerReacting a []).queued,
      (r.offerReacting a []).dropped⟩ := by
  unfold offer offerReacting
  cases r.config.overflow with
  | dropNewest =>
      rcases r.tryPush a with ⟨s, p⟩
      cases p <;> rfl
  | dropOldest => rfl

/-- Consumed records that were counted: a consumption that unwinds leaves its records out. -/
def Outcome.counted (o : Outcome α) : List α :=
  if o.ending = .returned then o.flow.consumed else []

/-- The counted events of a call; each eviction follows an attempt that found no room. -/
def Outcome.tally (o : Outcome α) : Tally where
  pushed := o.flow.stored.length
  popped := o.counted.length
  rejected := o.flow.refused.length + o.flow.evicted.length
  evicted := o.flow.evicted.length

/-- What one call does to a ring that stands for `q`, whatever its callback does. -/
structure Outcome.Settles (o : Outcome α) (r : Ring α) (q q' : Queue α) : Prop where
  ends : o.ending = .returned ∨ o.ending = .panicked
  becomes : Becomes r o.tally q' o.ring
  /-- Records leave at the front and are stored at the end. -/
  line : q.items ++ o.flow.stored = o.flow.removed ++ q'.items
  /-- Each record that was offered was stored, refused, or destroyed by a panic. -/
  parts : (o.flow.stored ++ o.flow.refused ++ o.flow.destroyed).Perm o.flow.offered

section

variable {r : Ring α} {q : Queue α}

theorem Represents.execute_tryPush (h : Represents r q) (a : α) :
    ∃ q', (r.execute (.tryPush a)).Settles r q q' := by
  rcases h.counts_tryPush a with ⟨s, q', fits, tried, becomes⟩ | ⟨s, -, tried, becomes⟩
  · obtain ⟨-, rfl⟩ := Queue.push?_eq_some_iff.1 fits
    simp only [execute, tried]
    exact ⟨_, .inl rfl, becomes, rfl, .refl _⟩
  · simp only [execute, tried]
    exact ⟨q, .inl rfl, becomes, by simp [Flow.removed], .refl _⟩

theorem Represents.execute_push (h : Represents r q) (a : α) :
    ∃ q', (r.execute (.push a)).Settles r q q' := by
  rcases h.counts_tryPush a with ⟨s, q', fits, tried, becomes⟩ | ⟨s, -, tried, becomes⟩
  · obtain ⟨-, rfl⟩ := Queue.push?_eq_some_iff.1 fits
    simp only [execute, push, tried]
    exact ⟨_, .inl rfl, becomes, rfl, .refl _⟩
  · simp only [execute, push, tried]
    exact ⟨q, .inl rfl, becomes, by simp [Flow.ofPush, Flow.removed], .refl _⟩

theorem Represents.execute_pop (h : Represents r q) : ∃ q', (r.execute .pop).Settles r q q' := by
  rcases h.counts_takeOldest with ⟨s, a, q', popped, took, becomes⟩ | ⟨-, took⟩
  · obtain ⟨here, -⟩ := Queue.pop?_eq_some_iff.1 popped
    have counted : Becomes r (0 + ⟨0, 1, 0, 0⟩) q' (s.countPopped 1) :=
      becomes.count _ fun c => by ext <;> simp [Counters.after]
    simp only [execute, pop, took]
    exact ⟨q', .inl rfl, counted, by simp [Flow.removed, here], .refl _⟩
  · simp only [execute, pop, took]
    exact ⟨q, .inl rfl, Becomes.refl h, by simp [Flow.removed], .refl _⟩

/-- An evicting push, whether it is called for itself or by an offer. -/
theorem Represents.settles_eviction (h : Represents r q) (a : α) (reactions : List (Reaction α)) :
    ∃ q', Outcome.Settles
      ⟨(r.pushEvicting a reactions).ring, (r.pushEvicting a reactions).ending,
        .ofEviction a reactions (r.pushEvicting a reactions).evicted
          (r.pushEvicting a reactions).accepted (r.pushEvicting a reactions).ending⟩ r q q' := by
  have follows := h.displace a reactions
  have facts := h.withinBounds.displace a reactions
  rw [follows.evicted, follows.accepted, follows.ending]
  refine ⟨_, facts.ends, follows.becomes.congr ?_ ?_ ?_ rfl, ?_, ?_⟩
  · simp only [tallyOfEviction, Outcome.tally, Flow.ofEviction, List.length_append,
      length_answeredWith facts.answers]
    split <;> rfl
  · simp [tallyOfEviction, Outcome.tally, Outcome.counted, Flow.ofEviction]
  · simp only [tallyOfEviction, Outcome.tally, Flow.ofEviction,
      length_answeredWith facts.answers]
  · exact facts.line.symm
  · have pushes := answeredWith_perm facts.answers
    rcases facts.ends with returned | unwound
    · simp only [Flow.ofEviction, returned, if_true, List.append_nil, List.append_assoc,
        List.singleton_append]
      exact List.perm_middle.trans (pushes.cons a)
    · simp only [Flow.ofEviction, unwound, reduceCtorEq, if_false, List.append_nil]
      exact List.perm_append_singleton a _ |>.trans (pushes.cons a)

/-- A refused offer, whose callback is called with the refused record. -/
theorem Represents.settles_refusal (h : Represents r q) (a : α) (reactions : List (Reaction α))
    (policy : r.config.overflow = .dropNewest) :
    ∃ q', (r.execute (.offer a reactions)).Settles r q q' := by
  rcases h.counts_tryPush a with ⟨s, q', fits, tried, becomes⟩ | ⟨s, -, tried, becomes⟩
  · obtain ⟨-, rfl⟩ := Queue.push?_eq_some_iff.1 fits
    simp only [execute, offerReacting, policy, tried]
    exact ⟨_, .inl rfl, becomes, by simp [Flow.ofRefusal, Flow.removed, pushesOf_zero],
      .refl _⟩
  · obtain ⟨answers, pushed⟩ :=
      becomes.represents.pushAll (reactions.headD Reaction.quiet).pushes
    have answered := Queue.length_pushAll q (reactions.headD Reaction.quiet).pushes
    simp only [execute, offerReacting, policy, tried, answers, Flow.ofRefusal_false]
    generalize (reactions.headD Reaction.quiet).pushes = pushes at pushed answered ⊢
    refine ⟨_, ?_, (becomes.trans pushed).congr ?_ ?_ ?_ rfl, ?_, ?_⟩
    · split
      · exact .inr rfl
      · exact .inl rfl
    · simp [Outcome.tally, length_answeredWith answered]
    · simp [Outcome.tally, Outcome.counted]
    · simp [Outcome.tally, length_answeredWith answered, Nat.add_comm]
    · simp [Flow.removed, Queue.pushAll_items]
    · simp only [List.append_nil]
      exact List.perm_middle.trans ((answeredWith_perm answered).cons a)

theorem Represents.settles_consumption (h : Represents r q) (n : Nat)
    (handler : Nat → α → Reaction α) : ∃ q', (r.execute (.consume n handler)).Settles r q q' := by
  have follows := h.consuming n handler
  have facts := h.withinBounds.consume n handler
  simp only [execute]
  rw [follows.deliveries, follows.ending]
  refine ⟨_, facts.ends, follows.becomes.congr ?_ ?_ ?_ rfl, ?_, ?_⟩
  · exact (length_answeredWith facts.answers).symm
  · simp only [tallyOfConsumption, Outcome.tally, Outcome.counted, Flow.ofConsumption, itemsOf]
    split
    · exact (List.length_map _).symm
    · rfl
  · exact (length_answeredWith facts.answers).symm
  · simpa [Flow.ofConsumption, Flow.removed] using facts.line.symm
  · simpa [Flow.ofConsumption] using answeredWith_perm facts.answers

/-- One call, whatever its callback does, comes to its end and moves records from the front of the
queue to somebody and from somebody to its end. -/
theorem Represents.execute (h : Represents r q) (command : Command α) :
    ∃ q', (r.execute command).Settles r q q' := by
  cases command with
  | tryPush a => exact h.execute_tryPush a
  | push a => exact h.execute_push a
  | offer a reactions =>
      cases policy : r.config.overflow with
      | dropNewest => exact h.settles_refusal a reactions policy
      | dropOldest =>
          simp only [Ring.execute, offerReacting, policy]
          exact h.settles_eviction a reactions
  | pushEvicting a reactions => exact h.settles_eviction a reactions
  | pop => exact h.execute_pop
  | consume n handler => exact h.settles_consumption n handler
  | consumeAll handler => exact h.settles_consumption _ handler

/-! ## Any number of calls -/

/-- Calls one after the other: the ring they leave, and what each did. -/
def executeAll : Ring α → List (Command α) → Ring α × List (Outcome α)
  | r, [] => (r, [])
  | r, command :: rest =>
    let o := r.execute command
    let (s, os) := o.ring.executeAll rest
    (s, o :: os)

/-- The records of all calls that went one way. -/
def allOf (part : Flow α → List α) (outcomes : List (Outcome α)) : List α :=
  outcomes.flatMap fun o => part o.flow

/-- The counted events of all calls. -/
def tallyOf (outcomes : List (Outcome α)) : Tally where
  pushed := (allOf (·.stored) outcomes).length
  popped := (outcomes.flatMap (·.counted)).length
  rejected := (allOf (·.refused) outcomes).length + (allOf (·.evicted) outcomes).length
  evicted := (allOf (·.evicted) outcomes).length

/-- What calls do that lead from `r`, which stands for `q`, to `s`, which stands for `q'`. -/
structure Settled (r : Ring α) (q : Queue α) (outcomes : List (Outcome α)) (s : Ring α)
    (q' : Queue α) : Prop where
  ends : ∀ o ∈ outcomes, o.ending = .returned ∨ o.ending = .panicked
  becomes : Becomes r (tallyOf outcomes) q' s
  /-- Records leave at the front and are stored at the end. -/
  line : q.items ++ allOf (·.stored) outcomes = allOf (·.removed) outcomes ++ q'.items
  /-- Each record that was offered was stored, refused, or destroyed by a panic. -/
  parts : ∀ o ∈ outcomes,
    (o.flow.stored ++ o.flow.refused ++ o.flow.destroyed).Perm o.flow.offered

theorem Represents.executeAll (h : Represents r q) (commands : List (Command α)) :
    ∃ q', Settled r q (r.executeAll commands).2 (r.executeAll commands).1 q' := by
  induction commands generalizing r q with
  | nil => exact ⟨q, by simp [Ring.executeAll], Becomes.refl h, List.append_nil _,
      by simp [Ring.executeAll]⟩
  | cons command rest ih =>
      obtain ⟨q', first⟩ := h.execute command
      obtain ⟨q'', later⟩ := ih first.becomes.represents
      refine ⟨q'', ?_, (first.becomes.trans later.becomes).congr ?_ ?_ ?_ ?_, ?_, ?_⟩
      · exact List.forall_mem_cons.2 ⟨first.ends, later.ends⟩
      · simp [tallyOf, allOf, Outcome.tally, Ring.executeAll]
      · simp [tallyOf, Outcome.tally, Ring.executeAll]
      · simp [tallyOf, allOf, Outcome.tally, Ring.executeAll]
        omega
      · simp [tallyOf, allOf, Outcome.tally, Ring.executeAll]
      · calc q.items ++ allOf (·.stored) (r.executeAll (command :: rest)).2
            = (q.items ++ (r.execute command).flow.stored)
                ++ allOf (·.stored) ((r.execute command).ring.executeAll rest).2 :=
              (List.append_assoc ..).symm
          _ = (r.execute command).flow.removed
                ++ (q'.items ++ allOf (·.stored) ((r.execute command).ring.executeAll rest).2) := by
              rw [first.line, List.append_assoc]
          _ = allOf (·.removed) (r.executeAll (command :: rest)).2 ++ q''.items := by
              rw [later.line, ← List.append_assoc]
              rfl
      · exact List.forall_mem_cons.2 ⟨first.parts, later.parts⟩

/-- Whatever was offered to a ring that was empty is queued, or was handed to a consumer or an
eviction callback, or was refused, or destroyed by a panic: each record in one place. -/
theorem Settled.places {outcomes : List (Outcome α)} {s : Ring α} {q' : Queue α}
    (h : Settled r q outcomes s q') (empty : q.items = []) :
    (q'.items ++ allOf (·.consumed) outcomes ++ allOf (·.evicted) outcomes
      ++ allOf (·.refused) outcomes ++ allOf (·.destroyed) outcomes).Perm
        (allOf (·.offered) outcomes) := by
  have line := h.line
  rw [empty, List.nil_append] at line
  have removed : (allOf (·.consumed) outcomes ++ allOf (·.evicted) outcomes).Perm
      (allOf (·.removed) outcomes) :=
    List.flatMap_append_perm ..
  have stored : (q'.items ++ allOf (·.consumed) outcomes ++ allOf (·.evicted) outcomes).Perm
      (allOf (·.stored) outcomes) := by
    rw [line, List.append_assoc]
    exact List.perm_append_comm.trans (removed.append_right _)
  have each : (allOf (·.stored) outcomes ++ allOf (·.refused) outcomes
      ++ allOf (·.destroyed) outcomes).Perm
        (outcomes.flatMap fun o => o.flow.stored ++ o.flow.refused ++ o.flow.destroyed) :=
    ((List.flatMap_append_perm ..).append_right _).trans (List.flatMap_append_perm ..)
  exact ((stored.append_right _).append_right _).trans
    (each.trans (List.Perm.flatMap_left _ h.parts))

end

end Telemetry.Ring
