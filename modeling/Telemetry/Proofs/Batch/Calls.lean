import Telemetry.Proofs.Batch.History

set_option autoImplicit false

/-! # Calls on the exporter along a run

The worker is the only one that calls the exporter, and it waits for the end of each call. So the
calls of a run have all ended, in order, except for the one the worker waits for; and the records
in the batches handed over so far, followed by those in the worker's hand, are the records that
the history says were taken for a batch. -/

namespace Telemetry

/-- The batch that a request hands over. -/
def Request.batch? {α : Type} : Request α → Option (List α)
  | .send batch => some batch
  | _ => none

namespace Batch

variable {α : Type}

/-! ## Reading the notes -/

/-- The request of a call that begins. -/
def Note.request? : Note α → Option (Request α)
  | .calls request => some request
  | _ => none

/-- How a call ended. -/
def Note.outcome? : Note α → Option Outcome
  | .ended o => some o
  | _ => none

/-- The calls on the exporter, its name aside. -/
def calls (notes : List (Note α)) : List (Request α) :=
  notes.filterMap Note.request?

/-- How calls on the exporter ended. -/
def outcomes (notes : List (Note α)) : List Outcome :=
  notes.filterMap Note.outcome?

/-- The calls on the exporter that have returned or panicked. -/
def endedCalls (notes : List (Note α)) : List (Request α) :=
  (calls notes).take (outcomes notes).length

/-- The batches that calls hand over. -/
def batches (requests : List (Request α)) : List (List α) :=
  requests.filterMap Request.batch?

@[simp] theorem calls_append (notes new : List (Note α)) :
    calls (notes ++ new) = calls notes ++ calls new :=
  List.filterMap_append

@[simp] theorem outcomes_append (notes new : List (Note α)) :
    outcomes (notes ++ new) = outcomes notes ++ outcomes new :=
  List.filterMap_append

@[simp] theorem batches_append (requests new : List (Request α)) :
    batches (requests ++ new) = batches requests ++ batches new :=
  List.filterMap_append

/-! ## One call at a time -/

@[simp] theorem Worker.pending?_woken (w : Worker α) : w.woken.pending? = w.pending? := by
  cases w <;> rfl

/-- What the notes of a step say about the call that the worker waits for. -/
inductive Talks (notes : List (Note α)) : Option (Request α) → Option (Request α) → Prop where
  | silent {r : Option (Request α)} : calls notes = [] → outcomes notes = [] → Talks notes r r
  | begins {r : Request α} : calls notes = [r] → outcomes notes = [] → Talks notes none (some r)
  | ends {r : Request α} {o : Outcome} : calls notes = [] → outcomes notes = [o] →
      Talks notes (some r) none

theorem Sweep.Moves.silent {s t : Batch α} {w : Sweep} {next : Option Sweep}
    {notes : List (Note α)} (h : w.Moves s t next notes) :
    calls notes = [] ∧ outcomes notes = [] := by
  cases h <;> exact ⟨rfl, rfl⟩

theorem Caller.LooksAtShutdown.silent {s : Batch α} {limit : Duration} {implied : Bool}
    {c : Caller α} {notes : List (Note α)} (h : LooksAtShutdown s limit implied c notes) :
    calls notes = [] ∧ outcomes notes = [] := by
  cases h <;> exact ⟨rfl, rfl⟩

theorem Caller.Moves.silent {s t : Batch α} {c c' : Caller α} {notes : List (Note α)}
    (h : c.Moves s t c' notes) : calls notes = [] ∧ outcomes notes = [] := by
  cases h with
  | sweeps hw | endsSweep hw => exact hw.silent
  | closesAgain _ look | closes _ look | looksAtShutdown look => exact look.silent
  | warns => split <;> exact ⟨rfl, rfl⟩
  | joins => split <;> exact ⟨rfl, rfl⟩
  | leavesDrop => split <;> exact ⟨rfl, rfl⟩
  | _ => exact ⟨rfl, rfl⟩

theorem Worker.Moves.talks {s t : Batch α} {w w' : Worker α} {notes : List (Note α)}
    (h : w.Moves s t w' notes) : Talks notes w.pending? w'.pending? := by
  cases h with
  | sends | endsFlush => exact .begins rfl rfl
  | sent | notSent | flushed | closed | notClosed => exact .ends rfl rfl
  | sweeps hw | unwindSweeps hw | endsUnwindSweep hw => exact .silent hw.silent.1 hw.silent.2
  | endsSweep hw =>
      refine .begins ?_ ?_
      · rw [calls_append, hw.silent.1]
        rfl
      · rw [outcomes_append, hw.silent.2]
        rfl
  | _ => exact .silent rfl rfl

theorem Moves.talks {s u : Batch α} {label : Label α} {notes : List (Note α)}
    (h : s.Moves label u notes) : Talks notes s.worker.pending? u.worker.pending? := by
  cases h with
  | begins op => exact .silent rfl rfl
  | @caller i expired c c' t _ hc hm =>
      show Talks notes s.worker.pending? t.worker.pending?
      rw [hm.worker_eq Worker.pending? Worker.pending?_woken]
      exact .silent hm.silent.1 hm.silent.2
  | worker _ _ hm => exact hm.talks

/-- Every call has ended before the next one begins: all calls but the one that the worker waits
for have ended. -/
theorem Run.calls_eq {s t : Batch α} {labels : List (Label α)} {notes : List (Note α)}
    (run : Run s labels notes t) (idle : s.worker.pending? = none) :
    calls notes = endedCalls notes ++ t.worker.pending?.toList ∧
      (endedCalls notes).length = (outcomes notes).length := by
  -- The length of the ended part is not known before it is found, so the run is followed for a
  -- split of the calls first.
  suffices h : ∃ before, calls notes = before ++ t.worker.pending?.toList ∧
      before.length = (outcomes notes).length by
    obtain ⟨before, heq, hlen⟩ := h
    have ended : endedCalls notes = before := by
      rw [endedCalls, heq, ← hlen, List.take_left']
      rfl
    exact ⟨by rw [ended, heq], by rw [ended, hlen]⟩
  induction run with
  | nil => exact ⟨[], by rw [idle]; rfl, rfl⟩
  | @snoc t u labels notes new label _ step ih =>
      obtain ⟨before, heq, hlen⟩ := ih
      rw [calls_append, outcomes_append, heq]
      generalize ht : t.worker.pending? = p
      generalize hu : u.worker.pending? = q
      have talks := (moves_of_step step).talks
      rw [ht, hu] at talks
      cases talks with
      | silent none₁ none₂ =>
          exact ⟨before, by rw [none₁, List.append_nil], by rw [none₂, List.append_nil, hlen]⟩
      | begins one none₂ =>
          exact ⟨before, by rw [one]; simp, by rw [none₂, List.append_nil, hlen]⟩
      | @ends r o none₁ one =>
          exact ⟨before ++ [r], by rw [none₁]; simp, by rw [one]; simp [hlen]⟩

/-! ## Batches -/

/-- The records that the worker has collected for the next batch. -/
def Worker.hand : Worker α → List α
  | .collecting _ batch => batch
  | _ => []

theorem Worker.hand_woken (w : Worker α) : w.woken.hand = w.hand := by
  cases w <;> rfl

/-- The worker hands over what it has in its hand, and takes only from the front of the queue. -/
theorem Worker.Moves.hand {s t : Batch α} {w w' : Worker α} {notes : List (Note α)}
    (h : w.Moves s t w' notes) :
    (batches (calls notes)).flatten ++ w'.hand = w.hand ∨
      ∃ p batch a rest, w = .collecting p batch ∧ w' = .collecting p (batch ++ [a]) ∧
        s.queue.items = a :: rest ∧ t.queue.items = rest ∧ notes = [] := by
  cases h with
  | collects _ items => exact .inr ⟨_, _, _, _, rfl, rfl, items, rfl, rfl⟩
  | @sends p batch =>
      refine .inl ?_
      show [batch].flatten ++ [] = batch
      simp
  | sweeps hw | unwindSweeps hw | endsUnwindSweep hw =>
      refine .inl ?_
      rw [hw.silent.1]
      rfl
  | endsSweep hw =>
      refine .inl ?_
      rw [calls_append, hw.silent.1]
      rfl
  | _ => exact .inl rfl

theorem Moves.hand {s u : Batch α} {label : Label α} {notes : List (Note α)}
    (h : s.Moves label u notes) :
    (batches (calls notes)).flatten ++ u.worker.hand = s.worker.hand ∨
      ∃ p batch a rest, label.caller? = none ∧ s.worker = .collecting p batch ∧
        u.worker = .collecting p (batch ++ [a]) ∧ s.queue.items = a :: rest ∧
        u.queue.items = rest ∧ notes = [] := by
  cases h with
  | begins op => exact .inl rfl
  | @caller i expired c c' t _ hc hm =>
      refine .inl ?_
      show (batches (calls notes)).flatten ++ t.worker.hand = s.worker.hand
      rw [hm.silent.1, hm.worker_eq Worker.hand Worker.hand_woken]
      rfl
  | worker hl _ hm =>
      rcases hm.hand with same | ⟨p, batch, a, rest, hs, hu, items, items', hn⟩
      · exact .inl same
      · exact .inr ⟨p, batch, a, rest, hl, hs, hu, items, items', hn⟩

/-- What the history says about the state and the notes: the queue holds the accepted records that
have not left, and the batches hold the records taken for a batch. -/
structure Recorded (h : History α) (notes : List (Note α)) (s : Batch α) : Prop where
  left : h.fates.length ≤ h.accepted.length
  queued : s.queue.items = (h.accepted.drop h.fates.length).map Prod.snd
  batched : (batches (calls notes)).flatten ++ s.worker.hand = (h.withFate .batched).map Prod.snd

theorem recorded_start (name : String) (config : BatchConfig) :
    Recorded .empty [] (start name config : Batch α) where
  left := Nat.le_refl 0
  queued := rfl
  batched := rfl

theorem Recorded.length_eq {h : History α} {notes : List (Note α)} {s : Batch α}
    (rec : Recorded h notes s) : h.fates.length + s.queue.length = h.accepted.length := by
  rw [Queue.length, rec.queued, List.length_map, List.length_drop]
  exact Nat.add_sub_cancel' rec.left

/-- The record that leaves the queue is the first accepted one without a fate. -/
theorem Recorded.front {h : History α} {notes : List (Note α)} {s : Batch α} {a : α}
    {rest : List α} (rec : Recorded h notes s) (items : s.queue.items = a :: rest) :
    ∃ i, h.accepted[h.fates.length]? = some (i, a) ∧
      rest = (h.accepted.drop (h.fates.length + 1)).map Prod.snd := by
  have whole := rec.queued
  rw [items] at whole
  cases hd : h.accepted.drop h.fates.length with
  | nil => rw [hd] at whole; cases whole
  | cons x xs =>
      rw [hd] at whole
      obtain ⟨i, b⟩ := x
      cases whole
      refine ⟨i, ?_, ?_⟩
      · rw [← List.head?_drop, hd]
        rfl
      · rw [← List.tail_drop, hd]
        rfl

/-- A record leaves for a batch or not; the rest of the queue stays. -/
theorem Recorded.leave {h : History α} {notes new : List (Note α)} {s u : Batch α} {a : α}
    {rest : List α} (rec : Recorded h notes s) (items : s.queue.items = a :: rest)
    (queue : u.queue = ⟨s.queue.capacity, rest⟩) (f : Fate)
    (hand : (batches (calls new)).flatten ++ u.worker.hand =
      s.worker.hand ++ if f = .batched then [a] else []) :
    Recorded (h.leave f) (notes ++ new) u := by
  obtain ⟨i, front, tail⟩ := rec.front items
  have lt : h.fates.length < h.accepted.length := (List.getElem?_eq_some_iff.1 front).1
  constructor
  case left =>
    show (h.fates ++ [f]).length ≤ h.accepted.length
    rw [List.length_append]
    exact lt
  case queued =>
    show u.queue.items = (h.accepted.drop (h.fates ++ [f]).length).map Prod.snd
    rw [queue, List.length_append]
    exact tail
  case batched =>
    have chosen : (h.leave f).withFate .batched =
        h.withFate .batched ++ if f = .batched then [(i, a)] else [] :=
      History.select_leave .batched f front
    rw [chosen, calls_append, batches_append, List.flatten_append, List.append_assoc, hand,
      ← List.append_assoc, rec.batched, List.map_append]
    split <;> rfl

theorem Recorded.step {h : History α} {notes new : List (Note α)} {s u : Batch α}
    {label : Label α} (rec : Recorded h notes s) (hm : s.Moves label u new) :
    Recorded (h.followedBy (s.record label u)) (notes ++ new) u := by
  -- Only the step that collects a record changes what was batched.
  have hand := hm.hand
  have touch := hm.touches h
  generalize h.followedBy (s.record label u) = h' at touch ⊢
  cases touch with
  | keeps queue =>
      rcases hand with same | ⟨_, _, a, rest, _, _, _, items, items', _⟩
      · refine ⟨rec.left, queue ▸ rec.queued, ?_⟩
        rw [calls_append, batches_append, List.flatten_append, List.append_assoc, same]
        exact rec.batched
      · rw [queue, items] at items'
        exact absurd items' (List.cons_ne_self a rest)
  | @accepts i a hl hc _ room queue worker =>
      rcases hand with same | ⟨_, _, _, _, hl', _⟩
      · constructor
        case left =>
          show h.fates.length ≤ (h.accepted ++ [(i, a)]).length
          rw [List.length_append]
          exact Nat.le_succ_of_le rec.left
        case queued =>
          show u.queue.items = ((h.accepted ++ [(i, a)]).drop h.fates.length).map Prod.snd
          rw [queue, List.drop_append_of_le_length rec.left, List.map_append, ← rec.queued]
          rfl
        case batched =>
          have chosen : (h.accept (i, a)).withFate .batched = h.withFate .batched :=
            History.select_accept .batched (i, a) rec.left
          rw [calls_append, batches_append, List.flatten_append, List.append_assoc, same, chosen]
          exact rec.batched
      · rw [hl] at hl'
        cases hl'
  | evicts hl _ items queue =>
      rcases hand with same | ⟨_, _, _, _, hl', _⟩
      · exact rec.leave items queue .evicted (by simpa using same)
      · rw [hl] at hl'
        cases hl'
  | @batches p batch a rest hl hs room items queue hu =>
      rcases hand with same | ⟨_, _, _, _, _, _, _, _, _, rfl⟩
      · rw [hs, hu] at same
        have len := congrArg List.length same
        simp only [Worker.hand, List.length_append, List.length_singleton] at len
        omega
      · refine rec.leave items queue .batched ?_
        rw [hs, hu]
        rfl
  | discards hd items queue =>
      rcases hand with same | ⟨_, _, _, _, hl', hs', _⟩
      · exact rec.leave items queue .discarded (by simpa using same)
      · cases hd with
        | caller hl => rw [hl] at hl'; cases hl'
        | closing _ hs => rw [hs] at hs'; cases hs'
        | unwinding _ hs => rw [hs] at hs'; cases hs'

/-- The history of a run tells what is in the queue and in the batches. -/
theorem Run.recorded {name : String} {config : BatchConfig} {s : Batch α}
    {labels : List (Label α)} {notes : List (Note α)}
    (run : Run (start name config) labels notes s) :
    Recorded ((start name config).history labels) notes s := by
  induction run with
  | nil => exact recorded_start name config
  | snoc run step ih =>
      rw [history_snoc run step]
      exact ih.step (moves_of_step step)

end Batch

end Telemetry
