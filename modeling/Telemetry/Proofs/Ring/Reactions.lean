import Telemetry.Proofs.Queue
import Telemetry.Ring.Operations

set_option autoImplicit false

/-! # A bounded queue whose callbacks push and panic

The operations that hand records to a callback, on a bounded list. `displace` is the evicting push
and `consume` the bulk consumption; what the callback does at each of its calls is data, as it is
for a ring. Two facts are proved of each. Nothing changes its place in the line: the records handed
out, and behind them those that are left, are those that were there, and behind them those that were
accepted meanwhile. And a call of the callback panics exactly if it is the last one and the
operation unwinds. -/

namespace Telemetry

/-! ## Answers -/

namespace Ring

variable {α : Type}

/-- The records whose push was answered by `answer`, in order. -/
def answeredWith (answer : Bool) (records : List α) (answers : List Bool) : List α :=
  (records.zip answers).filterMap fun (a, b) => if b = answer then some a else none

variable {answer : Bool} {a : α} {records records' : List α} {answers answers' : List Bool}

@[simp] theorem answeredWith_nil : answeredWith answer ([] : List α) answers = [] :=
  rfl

@[simp] theorem answeredWith_cons_self :
    answeredWith answer (a :: records) (answer :: answers)
      = a :: answeredWith answer records answers := by
  simp [answeredWith]

theorem answeredWith_cons_of_ne {b : Bool} (h : b ≠ answer) :
    answeredWith answer (a :: records) (b :: answers) = answeredWith answer records answers := by
  simp [answeredWith, h]

theorem answeredWith_append (h : answers.length = records.length) :
    answeredWith answer (records ++ records') (answers ++ answers')
      = answeredWith answer records answers ++ answeredWith answer records' answers' := by
  rw [answeredWith, List.zip_append h.symm, List.filterMap_append]
  rfl

theorem length_answeredWith (h : answers.length = records.length) :
    (answeredWith answer records answers).length = answers.count answer := by
  induction records generalizing answers with
  | nil =>
      rw [List.eq_nil_of_length_eq_zero h]
      rfl
  | cons a records ih =>
      cases answers with
      | nil => cases h
      | cons b answers =>
          have rest := ih (Nat.succ.inj h)
          by_cases same : b = answer
          · subst same
            rw [answeredWith_cons_self, List.length_cons, rest, List.count_cons_self]
          · rw [answeredWith_cons_of_ne same, rest, List.count_cons_of_ne same]

/-- Each record is stored or refused. -/
theorem answeredWith_perm (h : answers.length = records.length) :
    (answeredWith true records answers ++ answeredWith false records answers).Perm records := by
  induction records generalizing answers with
  | nil => exact .nil
  | cons a records ih =>
      cases answers with
      | nil => cases h
      | cons b answers =>
          have rest := ih (Nat.succ.inj h)
          cases b with
          | true =>
              rw [answeredWith_cons_self, answeredWith_cons_of_ne Bool.false_ne_true.symm]
              exact rest.cons a
          | false =>
              rw [answeredWith_cons_of_ne Bool.false_ne_true, answeredWith_cons_self]
              exact List.perm_middle.trans (rest.cons a)

/-- The records that a callback pushes at its first `n` calls. -/
def pushesOf (reactions : List (Reaction α)) (n : Nat) : List α :=
  (reactions.take n).flatMap (·.pushes)

theorem pushesOf_nil (n : Nat) : pushesOf ([] : List (Reaction α)) n = [] := by
  simp [pushesOf]

theorem pushesOf_zero (reactions : List (Reaction α)) : pushesOf reactions 0 = [] :=
  rfl

theorem pushesOf_cons_succ (reaction : Reaction α) (reactions : List (Reaction α)) (n : Nat) :
    pushesOf (reaction :: reactions) (n + 1) = reaction.pushes ++ pushesOf reactions n := by
  simp [pushesOf]

/-- The first call follows the first reaction, or does nothing if there is none. -/
theorem pushesOf_succ (reactions : List (Reaction α)) (n : Nat) :
    pushesOf reactions (n + 1)
      = (reactions.headD Reaction.quiet).pushes ++ pushesOf reactions.tail n := by
  cases reactions with
  | nil => simp [pushesOf, Reaction.quiet]
  | cons reaction reactions => exact pushesOf_cons_succ ..

/-- The records that a handler pushes at the calls that hand out `deliveries`, of which the first is
call number `k`. -/
def pushesFrom (handler : Nat → α → Reaction α) (k : Nat) (deliveries : List (Delivery α)) :
    List α :=
  (deliveries.zipIdx k).flatMap fun (d, j) => (handler j d.item).pushes

theorem pushesFrom_cons (handler : Nat → α → Reaction α) (k : Nat) (d : Delivery α)
    (deliveries : List (Delivery α)) :
    pushesFrom handler k (d :: deliveries)
      = (handler k d.item).pushes ++ pushesFrom handler (k + 1) deliveries :=
  rfl

/-- The answers to the pushes of all calls of a handler. -/
def answersOf (deliveries : List (Delivery α)) : List Bool :=
  deliveries.flatMap (·.accepted)

/-- The records handed to a handler, in order. -/
def itemsOf (deliveries : List (Delivery α)) : List α :=
  deliveries.map (·.item)

end Ring

open Telemetry.Ring

namespace Queue

variable {α : Type} {q : Queue α}

/-! ## Pushes of a callback -/

/-- Offers records one after the other; says which were accepted. -/
def pushAll (q : Queue α) : List α → Queue α × List Bool
  | [] => (q, [])
  | a :: rest =>
    match q.push? a with
    | some q' =>
      let (q', others) := q'.pushAll rest
      (q', true :: others)
    | none =>
      let (q', others) := q.pushAll rest
      (q', false :: others)

/-- A queue that can hold a record and holds no more than it can. -/
structure WithinBounds (q : Queue α) : Prop where
  capacity_pos : 0 < q.capacity
  length_le : q.length ≤ q.capacity

theorem WithinBounds.push (h : q.WithinBounds) {a : α} {q' : Queue α}
    (pushed : q.push? a = some q') : q'.WithinBounds := by
  obtain ⟨room, rfl⟩ := push?_eq_some_iff.1 pushed
  refine ⟨h.capacity_pos, ?_⟩
  rw [length, List.length_append]
  exact room

theorem WithinBounds.pop (h : q.WithinBounds) {a : α} {rest : List α} (here : q.items = a :: rest) :
    WithinBounds ⟨q.capacity, rest⟩ :=
  ⟨h.capacity_pos, Nat.le_trans (length_rest_le here) h.length_le⟩

/-- A full queue has an oldest record. -/
theorem WithinBounds.exists_cons (h : q.WithinBounds) {a : α} (full : q.push? a = none) :
    ∃ old rest, q.items = old :: rest := by
  have := push?_eq_none_iff.1 full
  refine List.exists_cons_of_length_pos ?_
  exact Nat.lt_of_lt_of_le h.capacity_pos this

/-- Every record gets an answer. -/
theorem length_pushAll (q : Queue α) (records : List α) :
    (q.pushAll records).2.length = records.length := by
  induction records generalizing q with
  | nil => rfl
  | cons a records ih =>
      cases pushed : q.push? a with
      | none =>
          simp only [pushAll, pushed]
          exact congrArg (· + 1) (ih q)
      | some q' =>
          simp only [pushAll, pushed]
          exact congrArg (· + 1) (ih q')

@[simp] theorem pushAll_capacity (q : Queue α) (records : List α) :
    (q.pushAll records).1.capacity = q.capacity := by
  induction records generalizing q with
  | nil => rfl
  | cons a records ih =>
      cases pushed : q.push? a with
      | none =>
          simp only [pushAll, pushed]
          exact ih q
      | some q' =>
          obtain ⟨-, rfl⟩ := push?_eq_some_iff.1 pushed
          simp only [pushAll, pushed]
          exact ih _

/-- What is accepted stands at the end, in order. -/
theorem pushAll_items (q : Queue α) (records : List α) :
    (q.pushAll records).1.items
      = q.items ++ answeredWith true records (q.pushAll records).2 := by
  induction records generalizing q with
  | nil => exact (List.append_nil _).symm
  | cons a records ih =>
      cases pushed : q.push? a with
      | none =>
          simp only [pushAll, pushed, answeredWith_cons_of_ne Bool.false_ne_true]
          exact ih q
      | some q' =>
          obtain ⟨-, rfl⟩ := push?_eq_some_iff.1 pushed
          simp only [pushAll, pushed, answeredWith_cons_self]
          rw [ih, List.append_assoc]
          rfl

theorem WithinBounds.pushAll (h : q.WithinBounds) (records : List α) :
    (q.pushAll records).1.WithinBounds := by
  induction records generalizing q with
  | nil => exact h
  | cons a records ih =>
      cases pushed : q.push? a with
      | none =>
          simp only [Queue.pushAll, pushed]
          exact ih h
      | some q' =>
          simp only [Queue.pushAll, pushed]
          exact ih (h.push pushed)

/-! ## Evicting -/

/-- An evicting push on a bounded list, as `Ring.Eviction` is one on a ring. -/
structure Eviction (α : Type) where
  queue : Queue α
  evicted : List α
  accepted : List Bool
  ending : Ending

/-- Appends a record. As long as the queue is full the oldest record is handed to a callback, whose
calls follow `reactions`; once they are used up it leaves the queue alone. -/
def displace (a : α) : List (Reaction α) → Queue α → Eviction α
  | [], q =>
    let (old, q') := q.pushEvicting a
    ⟨q', old, [], .returned⟩
  | reaction :: rest, q =>
    match q.push? a with
    | some q' => ⟨q', [], [], .returned⟩
    | none =>
      let (old, q') := q.take 1
      let (q', accepted) := q'.pushAll reaction.pushes
      if reaction.panics then ⟨q', old, accepted, .panicked⟩
      else
        let e := displace a rest q'
        { e with evicted := old ++ e.evicted, accepted := accepted ++ e.accepted }

/-- What an evicting push of `a` on `q` does, whatever its callback does. -/
structure Eviction.IsOf (e : Eviction α) (q : Queue α) (a : α) (reactions : List (Reaction α)) :
    Prop where
  capacity : e.queue.capacity = q.capacity
  bounds : e.queue.WithinBounds
  ends : e.ending = .returned ∨ e.ending = .panicked
  /-- Every push of a call that was made has an answer. -/
  answers : e.accepted.length = (pushesOf reactions e.evicted.length).length
  /-- Records leave at the front and are accepted at the end, the offered one last. -/
  line : e.evicted ++ e.queue.items
    = q.items ++ (answeredWith true (pushesOf reactions e.evicted.length) e.accepted
        ++ if e.ending = .returned then [a] else [])
  /-- A call panics exactly if it is the last one and the push unwinds. -/
  panics : ∀ k < e.evicted.length, (reactions[k]?.getD Reaction.quiet).panics = true ↔
    e.ending = .panicked ∧ k + 1 = e.evicted.length
  unwinds : e.ending = .panicked → e.evicted ≠ []

/-- Without a panic the push returns. -/
theorem Eviction.IsOf.returned {e : Eviction α} {a : α} {reactions : List (Reaction α)}
    (h : e.IsOf q a reactions)
    (calm : ∀ k : Nat, (reactions[k]?.getD Reaction.quiet).panics = false) :
    e.ending = .returned := by
  refine h.ends.resolve_right fun unwound => ?_
  have some := List.length_pos_iff.2 (h.unwinds unwound)
  have panicked := (h.panics _ (Nat.sub_lt some Nat.zero_lt_one)).2
    ⟨unwound, Nat.sub_add_cancel some⟩
  rw [calm] at panicked
  cases panicked

/-- With room, the record is appended and the callback is not called. -/
theorem Eviction.isOf_of_room (h : q.WithinBounds) {a : α} {q' : Queue α}
    (pushed : q.push? a = some q') (reactions : List (Reaction α)) :
    Eviction.IsOf ⟨q', [], [], .returned⟩ q a reactions := by
  obtain ⟨-, rfl⟩ := push?_eq_some_iff.1 pushed
  exact {
    capacity := rfl
    bounds := h.push pushed
    ends := .inl rfl
    answers := rfl
    line := by simp [pushesOf_zero]
    panics := by simp
    unwinds := by simp }

/-- Behind the eviction of the oldest record of a full queue there is room for another one. -/
theorem WithinBounds.push_rest (h : q.WithinBounds) {a old : α} {rest : List α}
    (here : q.items = old :: rest) :
    (⟨q.capacity, rest⟩ : Queue α).push? a = some ⟨q.capacity, rest ++ [a]⟩ := by
  refine push?_of_lt ?_ a
  have := h.length_le
  rw [length_of_cons here] at this
  exact this

theorem take_one_of_cons {a : α} {rest : List α} (here : q.items = a :: rest) :
    q.take 1 = ([a], ⟨q.capacity, rest⟩) := by
  rw [take, here]
  rfl

theorem take_one {a : α} {q' : Queue α} (popped : q.pop? = some (a, q')) :
    q.take 1 = ([a], q') := by
  obtain ⟨here, capacity⟩ := pop?_eq_some_iff.1 popped
  rw [take_one_of_cons here, ← capacity]

theorem pushEvicting_of_room {a : α} {q' : Queue α} (pushed : q.push? a = some q') :
    q.pushEvicting a = ([], q') := by
  obtain ⟨room, rfl⟩ := push?_eq_some_iff.1 pushed
  rw [pushEvicting, if_neg]
  rw [isFull_iff]
  exact Nat.not_le.2 room

theorem pushEvicting_of_full {a old : α} {rest : List α} (full : q.push? a = none)
    (here : q.items = old :: rest) :
    q.pushEvicting a = ([old], ⟨q.capacity, rest ++ [a]⟩) := by
  rw [pushEvicting, if_pos (isFull_iff.2 (push?_eq_none_iff.1 full)), here]
  rfl

theorem WithinBounds.displace (h : q.WithinBounds) (a : α) (reactions : List (Reaction α)) :
    (displace a reactions q).IsOf q a reactions := by
  induction reactions generalizing q with
  | nil =>
      cases pushed : q.push? a with
      | some q' =>
          simp only [Queue.displace, pushEvicting_of_room pushed]
          exact Eviction.isOf_of_room h pushed []
      | none =>
          obtain ⟨old, rest, here⟩ := h.exists_cons pushed
          simp only [Queue.displace, pushEvicting_of_full pushed here]
          exact {
            capacity := rfl
            bounds := (h.pop here).push (h.push_rest here)
            ends := .inl rfl
            answers := by simp [pushesOf_nil]
            line := by simp [pushesOf_nil, here]
            panics := by simp [Reaction.quiet]
            unwinds := by simp }
  | cons reaction reactions ih =>
      cases pushed : q.push? a with
      | some q' =>
          simp only [Queue.displace, pushed]
          exact Eviction.isOf_of_room h pushed _
      | none =>
          obtain ⟨old, rest, here⟩ := h.exists_cons pushed
          have answered := length_pushAll ⟨q.capacity, rest⟩ reaction.pushes
          have bounds := (h.pop here).pushAll reaction.pushes
          simp only [Queue.displace, pushed, take_one_of_cons here]
          split
          · rename_i panics
            exact {
              capacity := pushAll_capacity ..
              bounds := bounds
              ends := .inr rfl
              answers := by simpa [pushesOf] using answered
              line := by simp [pushesOf, pushAll_items, here]
              panics := by simp [panics]
              unwinds := by simp }
          · rename_i calm
            have next := ih bounds
            refine {
              capacity := next.capacity.trans (pushAll_capacity ..)
              bounds := next.bounds
              ends := next.ends
              answers := ?_
              line := ?_
              panics := ?_
              unwinds := by simp }
            · rw [List.singleton_append, List.length_cons, pushesOf_cons_succ, List.length_append,
                List.length_append, answered, next.answers]
            · rw [List.singleton_append, List.length_cons, pushesOf_cons_succ,
                answeredWith_append answered, List.cons_append, next.line, pushAll_items, here]
              simp only [List.append_assoc, List.cons_append]
            · intro k made
              cases k with
              | zero =>
                  -- this call did not panic, so if the push unwinds there was a later one
                  refine iff_of_false calm fun ⟨unwound, last⟩ => next.unwinds unwound ?_
                  exact List.eq_nil_of_length_eq_zero (Nat.succ.inj last).symm
              | succ k =>
                  have later := next.panics k (Nat.lt_of_succ_lt_succ made)
                  rw [List.getElem?_cons_succ, later, List.singleton_append, List.length_cons,
                    Nat.add_right_cancel_iff]

/-- A full queue lets go of a record. -/
theorem WithinBounds.displace_evicts (h : q.WithinBounds) (full : q.isFull = true) (a : α)
    (reactions : List (Reaction α)) : (Queue.displace a reactions q).evicted ≠ [] := by
  have fits : q.push? a = none := push?_eq_none_iff.2 (isFull_iff.1 full)
  obtain ⟨old, rest, here⟩ := h.exists_cons fits
  cases reactions with
  | nil =>
      rw [Queue.displace, pushEvicting_of_full fits here]
      exact List.cons_ne_nil _ _
  | cons reaction reactions =>
      simp only [Queue.displace, fits, take_one_of_cons here]
      split
      · exact List.cons_ne_nil _ _
      · exact List.cons_ne_nil _ _

/-! ## Consuming -/

/-- A bulk consumption on a bounded list, as `Ring.Consumption` is one on a ring. -/
structure Consumption (α : Type) where
  queue : Queue α
  deliveries : List (Delivery α)
  ending : Ending

/-- Takes the oldest record and lets the handler push what it pushes at its call number `k`, and so
on, at most `n` times and until there is no record. -/
def consumeFrom (handler : Nat → α → Reaction α) : Nat → Nat → Queue α → Consumption α
  | 0, _, q => ⟨q, [], .returned⟩
  | n + 1, k, q =>
    match q.pop? with
    | none => ⟨q, [], .returned⟩
    | some (item, q') =>
      let (q'', accepted) := q'.pushAll (handler k item).pushes
      let delivery : Delivery α := ⟨item, q'.length.toUInt64, accepted⟩
      if (handler k item).panics then ⟨q'', [delivery], .panicked⟩
      else
        let c := consumeFrom handler n (k + 1) q''
        { c with deliveries := delivery :: c.deliveries }

/-- Takes up to `n` of the oldest records. -/
def consume (q : Queue α) (n : Nat) (handler : Nat → α → Reaction α) : Consumption α :=
  consumeFrom handler n 0 q

/-- What a bulk consumption of up to `n` records of `q` does whose first call is number `k`. -/
structure Consumption.IsOf (c : Consumption α) (q : Queue α) (handler : Nat → α → Reaction α)
    (n k : Nat) : Prop where
  capacity : c.queue.capacity = q.capacity
  bounds : c.queue.WithinBounds
  ends : c.ending = .returned ∨ c.ending = .panicked
  /-- Every push of a call that was made has an answer. -/
  answers : (answersOf c.deliveries).length = (pushesFrom handler k c.deliveries).length
  /-- Records leave at the front and are accepted at the end. -/
  line : itemsOf c.deliveries ++ c.queue.items
    = q.items ++ answeredWith true (pushesFrom handler k c.deliveries) (answersOf c.deliveries)
  /-- A call panics exactly if it is the last one and the consumption unwinds. -/
  panics : ∀ j d, c.deliveries[j]? = some d → ((handler (k + j) d.item).panics = true ↔
    c.ending = .panicked ∧ j + 1 = c.deliveries.length)
  unwinds : c.ending = .panicked → c.deliveries ≠ []
  few : c.deliveries.length ≤ n
  /-- It stops before the bound only if there is no record left. -/
  stops : c.ending = .returned → c.deliveries.length = n ∨ c.queue.items = []

/-- If the consumption unwinds, its last call panicked. -/
theorem Consumption.IsOf.last_panics {c : Consumption α} {handler : Nat → α → Reaction α}
    {n k : Nat} (h : c.IsOf q handler n k) (unwound : c.ending = .panicked) :
    ∃ j, ∃ d : Delivery α,
      j + 1 = c.deliveries.length ∧ (handler (k + j) d.item).panics = true := by
  have some := List.length_pos_iff.2 (h.unwinds unwound)
  have last := List.getElem?_eq_getElem (Nat.sub_lt some Nat.zero_lt_one)
  have count := Nat.sub_add_cancel some
  exact ⟨_, _, count, (h.panics _ _ last).2 ⟨unwound, count⟩⟩

/-- Without a panic the consumption returns. -/
theorem Consumption.IsOf.returned {c : Consumption α} {handler : Nat → α → Reaction α} {n k : Nat}
    (h : c.IsOf q handler n k) (calm : ∀ j a, (handler j a).panics = false) :
    c.ending = .returned := by
  refine h.ends.resolve_right fun unwound => ?_
  obtain ⟨j, d, -, panicked⟩ := h.last_panics unwound
  rw [calm] at panicked
  cases panicked

theorem WithinBounds.consumeFrom (h : q.WithinBounds) (handler : Nat → α → Reaction α)
    (n k : Nat) : (consumeFrom handler n k q).IsOf q handler n k := by
  induction n generalizing k q with
  | zero =>
      exact {
        capacity := rfl
        bounds := h
        ends := .inl rfl
        answers := rfl
        line := (List.append_nil _).symm
        panics := by simp [Queue.consumeFrom]
        unwinds := by simp [Queue.consumeFrom]
        few := Nat.le_refl 0
        stops := fun _ => .inl rfl }
  | succ n ih =>
      cases popped : q.pop? with
      | none =>
          simp only [Queue.consumeFrom, popped]
          exact {
            capacity := rfl
            bounds := h
            ends := .inl rfl
            answers := rfl
            line := (List.append_nil _).symm
            panics := by simp
            unwinds := by simp
            few := Nat.zero_le _
            stops := fun _ => .inr (pop?_eq_none_iff.1 popped) }
      | some taken =>
          obtain ⟨item, rest⟩ := taken
          obtain ⟨here, capacity⟩ := pop?_eq_some_iff.1 popped
          have answered := length_pushAll rest (handler k item).pushes
          have bounds : rest.WithinBounds :=
            ⟨capacity ▸ h.capacity_pos, capacity ▸ Nat.le_trans (length_rest_le here) h.length_le⟩
          have pushed := bounds.pushAll (handler k item).pushes
          simp only [Queue.consumeFrom, popped]
          split
          · rename_i panics
            exact {
              capacity := by rw [pushAll_capacity, capacity]
              bounds := pushed
              ends := .inr rfl
              answers := by simpa [answersOf, pushesFrom] using answered
              line := by simp [answersOf, pushesFrom, itemsOf, pushAll_items, here]
              panics := by
                intro j d made
                cases j with
                | zero =>
                    cases made
                    exact iff_of_true panics ⟨rfl, rfl⟩
                | succ j => cases made
              unwinds := by simp
              few := Nat.succ_le_succ (Nat.zero_le n)
              stops := by simp }
          · rename_i calm
            have next := ih pushed (k + 1)
            refine {
              capacity := next.capacity.trans (by rw [pushAll_capacity, capacity])
              bounds := next.bounds
              ends := next.ends
              answers := ?_
              line := ?_
              panics := ?_
              unwinds := by simp
              few := Nat.succ_le_succ next.few
              stops := fun returned => (next.stops returned).imp_left (congrArg (· + 1)) }
            · rw [pushesFrom_cons, answersOf, List.flatMap_cons, List.length_append,
                List.length_append, answered]
              exact congrArg _ next.answers
            · rw [pushesFrom_cons, answersOf, List.flatMap_cons, answeredWith_append answered,
                itemsOf, List.map_cons, List.cons_append]
              have line := next.line
              rw [answersOf, itemsOf, pushAll_items] at line
              rw [line, here]
              simp only [List.append_assoc, List.cons_append]
            · intro j d made
              cases j with
              | zero =>
                  -- this call did not panic, so if the consumption unwinds there was a later one
                  cases made
                  refine iff_of_false calm fun ⟨unwound, last⟩ => next.unwinds unwound ?_
                  exact List.eq_nil_of_length_eq_zero (Nat.succ.inj last).symm
              | succ j =>
                  rw [List.getElem?_cons_succ] at made
                  rw [Nat.add_comm j, ← Nat.add_assoc, next.panics j d made, List.length_cons,
                    Nat.add_comm 1 j, Nat.add_right_cancel_iff]

theorem WithinBounds.consume (h : q.WithinBounds) (n : Nat) (handler : Nat → α → Reaction α) :
    (q.consume n handler).IsOf q handler n 0 :=
  h.consumeFrom handler n 0

end Queue

end Telemetry
