import Telemetry.Proofs.Batch.Run

set_option autoImplicit false

/-! # Nothing stays behind

A record that comes behind the final drain is discarded. Once the end of the drain is announced, a
record in the queue is somebody's to discard: its producer still has to look at the flag, or a
sweep that began after the record was queued may still take as many records as there are. -/

namespace Telemetry.Batch

variable {α : Type}

/-- The sweep may take out all that is in the queue. -/
def Sweep.Covers (q : Queue α) : Sweep → Prop
  | .taking n => n + q.length ≤ q.capacity
  | _ => False

/-- The caller will see the end of the drain and sweep, or sweeps. -/
def Caller.Covers (q : Queue α) : Caller α → Prop
  | .counting | .checkingDrain => True
  | .sweeping w => w.Covers q
  | _ => False

/-- The worker sweeps. -/
def Worker.Covers (q : Queue α) : Worker α → Prop
  | .sweeping w _ _ | .unwindSweeping w => w.Covers q
  | _ => False

/-- The queue is within its bounds, and behind the final drain somebody covers what is in it. -/
structure Swept (s : Batch α) : Prop where
  room : s.queue.length ≤ s.queue.capacity
  covered : s.isDrained = true → s.queue.items = [] ∨
    (∃ (i : Nat) (c : Caller α), s.callers[i]? = some c ∧ c.Covers s.queue) ∨
      s.worker.Covers s.queue

/-- Whoever covers a queue covers a shorter one. -/
theorem Sweep.Covers.mono {q q' : Queue α} {w : Sweep} (h : w.Covers q)
    (capacity : q'.capacity = q.capacity) (length : q'.length ≤ q.length) : w.Covers q' := by
  cases w with
  | taking n =>
      show n + q'.length ≤ q'.capacity
      rw [capacity]
      exact Nat.le_trans (Nat.add_le_add_left length n) h
  | _ => exact h

theorem Caller.Covers.mono {q q' : Queue α} {c : Caller α} (h : c.Covers q)
    (capacity : q'.capacity = q.capacity) (length : q'.length ≤ q.length) : c.Covers q' := by
  cases c with
  | sweeping w => exact Sweep.Covers.mono h capacity length
  | _ => exact h

theorem Worker.Covers.mono {q q' : Queue α} {w : Worker α} (h : w.Covers q)
    (capacity : q'.capacity = q.capacity) (length : q'.length ≤ q.length) : w.Covers q' := by
  cases w with
  | sweeping w | unwindSweeping w => exact Sweep.Covers.mono h capacity length
  | _ => exact h

theorem Caller.Covers.notify {q : Queue α} {c : Caller α} (h : c.Covers q) : c.notify.Covers q := by
  cases c <;> exact h

theorem Worker.covers_woken (q : Queue α) (w : Worker α) : w.woken.Covers q = w.Covers q := by
  cases w <;> rfl

/-- A sweep that covers the queue goes on to cover it, or ends with the queue empty. -/
theorem Sweep.Moves.covers {s t : Batch α} {w : Sweep} {next : Option Sweep}
    {notes : List (Note α)} (h : w.Moves s t next notes) (covers : w.Covers s.queue) :
    t.queue.items = [] ∨ ∃ w', next = some w' ∧ w'.Covers t.queue := by
  -- A sweep that stops has found nothing, or has taken as many as the queue can hold.
  have stop {n : Nat} (bound : n + s.queue.length ≤ s.queue.capacity)
      (isOver : s.queue.capacity ≤ n ∨ s.queue.items = []) : s.queue.items = [] := by
    rcases isOver with full | empty
    · apply List.eq_nil_of_length_eq_zero
      show s.queue.length = 0
      omega
    · exact empty
  cases h with
  | @takes n a rest _ items =>
      refine .inr ⟨.taking (n + 1), rfl, ?_⟩
      have len := Queue.length_of_cons items
      have bound : n + s.queue.length ≤ s.queue.capacity := covers
      show n + 1 + rest.length ≤ s.queue.capacity
      omega
  | findsNothing isOver => exact .inl (stop covers isOver)
  | stops isOver => exact .inl (stop covers isOver)
  | _ => exact covers.elim

theorem Sweep.Moves.length_le {s t : Batch α} {w : Sweep} {next : Option Sweep}
    {notes : List (Note α)} (h : w.Moves s t next notes) : t.queue.length ≤ s.queue.length := by
  cases h with
  | @takes n a rest _ items =>
      exact Queue.length_rest_le items
  | _ => exact Nat.le_refl _

/-- A caller that makes the queue longer has found room, and will see the end of the drain. -/
theorem Caller.Moves.length_le {s t : Batch α} {c c' : Caller α} {notes : List (Note α)}
    (h : c.Moves s t c' notes) :
    t.queue.length ≤ s.queue.length ∨ (t.queue.length ≤ s.queue.capacity ∧ c' = .counting) := by
  cases h with
  | @queues a room =>
      refine .inr ⟨?_, rfl⟩
      show (s.queue.items ++ [a]).length ≤ s.queue.capacity
      rw [List.length_append]
      exact room
  | @evicts a old rest items =>
      exact .inl (Queue.length_rest_le items)
  | sweeps hw | endsSweep hw => exact .inl hw.length_le
  | _ => exact .inl (Nat.le_refl _)

theorem Worker.Moves.length_le {s t : Batch α} {w w' : Worker α} {notes : List (Note α)}
    (h : w.Moves s t w' notes) : t.queue.length ≤ s.queue.length := by
  cases h with
  | @collects p batch a rest _ items =>
      exact Queue.length_rest_le items
  | sweeps hw | endsSweep hw | unwindSweeps hw | endsUnwindSweep hw => exact hw.length_le
  | _ => exact Nat.le_refl _

theorem Caller.Moves.covers {s t : Batch α} {c c' : Caller α} {notes : List (Note α)}
    (h : c.Moves s t c' notes) (room : s.queue.length ≤ s.queue.capacity)
    (isOver : s.isDrained = true) (covers : c.Covers s.queue) :
    t.queue.items = [] ∨ c'.Covers t.queue := by
  cases h with
  | countsReceived => exact .inr trivial
  | beginsSweep =>
      refine .inr ?_
      show 0 + s.queue.length ≤ s.queue.capacity
      omega
  | needsNoSweep running => rw [isOver] at running; cases running
  | sweeps hw =>
      rcases hw.covers covers with empty | ⟨w', hw', covers'⟩
      · exact .inl empty
      · cases hw'
        exact .inr covers'
  | endsSweep hw =>
      rcases hw.covers covers with empty | ⟨w', hw', -⟩
      · exact .inl empty
      · cases hw'
  | _ => exact covers.elim

theorem Worker.Moves.covers {s t : Batch α} {w w' : Worker α} {notes : List (Note α)}
    (h : w.Moves s t w' notes) (covers : w.Covers s.queue) :
    t.queue.items = [] ∨ w'.Covers t.queue := by
  cases h with
  | sweeps hw | unwindSweeps hw =>
      rcases hw.covers covers with empty | ⟨w', hw', covers'⟩
      · exact .inl empty
      · cases hw'
        exact .inr covers'
  | endsSweep hw | endsUnwindSweep hw =>
      rcases hw.covers covers with empty | ⟨w', hw', -⟩
      · exact .inl empty
      · cases hw'
  | _ => exact covers.elim

/-- Who announces the end of the drain sweeps next. -/
theorem Worker.Moves.covers_of_seals {s t : Batch α} {w w' : Worker α} {notes : List (Note α)}
    (h : w.Moves s t w' notes) (room : s.queue.length ≤ s.queue.capacity)
    (before : s.isDrained = false) (now : t.isDrained = true) : w'.Covers t.queue := by
  have whole : Sweep.Covers s.queue (.taking 0) := by
    show 0 + s.queue.length ≤ s.queue.capacity
    omega
  cases h with
  | seals | unwindSeals => exact whole
  | sweeps hw | endsSweep hw | unwindSweeps hw | endsUnwindSweep hw =>
      rw [hw.frame] at now
      exact absurd (before.symm.trans now) nofun
  | _ => exact absurd (before.symm.trans now) nofun

theorem Swept.caller {s t : Batch α} {c c' : Caller α} {i : Nat} {notes : List (Note α)}
    (h : Swept s) (hc : s.callers[i]? = some c) (hm : c.Moves s t c' notes) :
    Swept { t with callers := t.callers.set i c' } := by
  obtain ⟨-, capacity, isDrained, callers⟩ := hm.frame
  have self : (t.callers.set i c')[i]? = some c' := by
    rw [callers, List.getElem?_set_self (List.getElem?_eq_some_iff.1 hc).1]
  constructor
  case room =>
    show t.queue.length ≤ t.queue.capacity
    rw [capacity]
    rcases hm.length_le with shorter | ⟨room, -⟩
    · exact Nat.le_trans shorter h.room
    · exact room
  case covered =>
    intro hd
    have isOver : s.isDrained = true := isDrained ▸ hd
    rcases hm.length_le with shorter | ⟨-, rfl⟩
    · rcases h.covered isOver with empty | ⟨j, d, hj, covers⟩ | covers
      · exact .inl (Queue.items_eq_nil_of_length_le empty shorter)
      · -- The caller that covers the queue is the one that moves, or it stays where it is.
        by_cases hij : i = j
        · subst hij
          obtain rfl : c = d := Option.some.inj (hc.symm.trans hj)
          rcases hm.covers h.room isOver covers with empty | covers'
          · exact .inl empty
          · exact .inr (.inl ⟨i, c', self, covers'⟩)
        · refine .inr (.inl ⟨j, d, ?_, covers.mono capacity shorter⟩)
          rw [← hj, ← callers]
          exact List.getElem?_set_ne hij
      · refine .inr (.inr ?_)
        have same := hm.worker_eq (Worker.Covers s.queue) (Worker.covers_woken s.queue)
        exact Worker.Covers.mono (same ▸ covers) capacity shorter
    · exact .inr (.inl ⟨i, .counting, self, trivial⟩)

theorem Swept.worker {s t : Batch α} {w : Worker α} {notes : List (Note α)} (h : Swept s)
    (hm : s.worker.Moves s t w notes) : Swept { t with worker := w } := by
  obtain ⟨-, capacity, callers⟩ := hm.frame
  have shorter := hm.length_le
  constructor
  case room =>
    show t.queue.length ≤ t.queue.capacity
    rw [capacity]
    exact Nat.le_trans shorter h.room
  case covered =>
    intro hd
    cases before : s.isDrained with
    | false => exact .inr (.inr (hm.covers_of_seals h.room before hd))
    | true =>
        rcases h.covered before with empty | ⟨j, d, hj, covers⟩ | covers
        · exact .inl (Queue.items_eq_nil_of_length_le empty shorter)
        · rcases callers with same | woken
          · refine .inr (.inl ⟨j, d, ?_, covers.mono capacity shorter⟩)
            exact same ▸ hj
          · refine .inr (.inl ⟨j, d.notify, ?_, (covers.mono capacity shorter).notify⟩)
            show t.callers[j]? = some d.notify
            rw [woken, List.getElem?_map, hj]
            rfl
        · rcases hm.covers covers with empty | covers'
          · exact .inl empty
          · exact .inr (.inr covers')

theorem Swept.step {s u : Batch α} {label : Label α} {notes : List (Note α)} (h : Swept s)
    (hm : s.Moves label u notes) : Swept u := by
  cases hm with
  | begins op =>
      refine ⟨h.room, fun hd => ?_⟩
      rcases h.covered hd with empty | ⟨j, d, hj, covers⟩ | covers
      · exact .inl empty
      · refine .inr (.inl ⟨j, d, ?_, covers⟩)
        exact (List.getElem?_append_left (List.getElem?_eq_some_iff.1 hj).1).trans hj
      · exact .inr (.inr covers)
  | caller hc hm => exact h.caller hc hm
  | worker _ _ hm => exact h.worker hm

theorem Run.swept {name : String} {config : BatchConfig} {s : Batch α}
    {labels : List (Label α)} {notes : List (Note α)}
    (run : Run (start name config) labels notes s) : Swept s :=
  run.preserves Swept.step ⟨Nat.zero_le _, nofun⟩

end Telemetry.Batch
