import Telemetry.Proofs.Batch.Accounting
import Telemetry.Proofs.Batch.Calls

set_option autoImplicit false

/-! # Records that come too late

A record that is discarded behind the final drain was counted as received, or will be; it is taken
back from those received and counted as refused, once, by the thread that discards it. With what
the threads have under way, the count of received records is that of the accepted ones less the
discarded ones, and the count of refused records is that of the discarded ones and of the calls that
were turned away. -/

namespace Telemetry.Batch

variable {α : Type}

/-! ## What is under way -/

/-- The records that a sweep has discarded and still has to count as refused. -/
def Sweep.late : Sweep → UInt64
  | .taking n | .unreceiving n | .counting n => n.toUInt64

/-- The received records that a caller still has to count, less those it has to take back. -/
def Caller.uncounted : Caller α → UInt64
  | .counting => 1
  | .sweeping w => -w.held
  | _ => 0

/-- The refused records that a caller still has to count. -/
def Caller.late : Caller α → UInt64
  | .refusing _ => 1
  | .sweeping w => w.late
  | _ => 0

/-- The received records that the worker has to take back, as a negative number. -/
def Worker.uncounted : Worker α → UInt64
  | .sweeping w _ _ | .unwindSweeping w => -w.held
  | _ => 0

/-- The refused records that the worker still has to count. -/
def Worker.late : Worker α → UInt64
  | .sweeping w _ _ | .unwindSweeping w => w.late
  | _ => 0

@[simp] theorem Caller.uncounted_notify (c : Caller α) : c.notify.uncounted = c.uncounted := by
  cases c <;> rfl

@[simp] theorem Caller.late_notify (c : Caller α) : c.notify.late = c.late := by
  cases c <;> rfl

@[simp] theorem Worker.uncounted_woken (w : Worker α) : w.woken.uncounted = w.uncounted := by
  cases w <;> rfl

@[simp] theorem Worker.late_woken (w : Worker α) : w.woken.late = w.late := by
  cases w <;> rfl

/-! ## What a step discards -/

/-- How many records a caller discards in a step from `s` to `t`. -/
def Caller.discards (s t : Batch α) : Caller α → Nat
  | .evicting _ => 0
  | _ => s.queue.length - t.queue.length

/-- How many records the worker discards in a step from `s` to `t`. -/
def Worker.discards (s t : Batch α) : Worker α → Nat
  | .collecting _ _ => 0
  | _ => s.queue.length - t.queue.length

/-- How many calls a step turns away: one that sees that shutdown was requested. -/
def Caller.turnedAway (s : Batch α) : Caller α → Nat
  | .receiving _ => if s.isShutdown then 1 else 0
  | _ => 0

/-- How many calls that bring a record were turned away in the run from a state along some
labels. -/
def turnedAway (s : Batch α) : List (Label α) → Nat
  | [] => 0
  | label :: labels =>
    match s.step label with
    | some (u, _) =>
      ((label.caller?.bind fun i => s.callers[i]?).elim 0 (Caller.turnedAway s)) +
        u.turnedAway labels
    | none => 0

theorem turnedAway_append {s t : Batch α} {labels : List (Label α)} {notes : List (Note α)}
    (run : Run s labels notes t) (labels' : List (Label α)) :
    s.turnedAway (labels ++ labels') = s.turnedAway labels + t.turnedAway labels' := by
  induction run generalizing labels' with
  | nil => rw [List.nil_append, turnedAway, Nat.zero_add]
  | @snoc t u labels notes new label run step ih =>
      have one : t.turnedAway [label] =
          (label.caller?.bind fun i => t.callers[i]?).elim 0 (Caller.turnedAway t) := by
        simp only [turnedAway, step, Nat.add_zero]
      have rest : t.turnedAway (label :: labels') =
          (label.caller?.bind fun i => t.callers[i]?).elim 0 (Caller.turnedAway t) +
            u.turnedAway labels' := by
        simp only [turnedAway, step]
      rw [List.append_assoc, List.singleton_append, ih, rest, ih, one, Nat.add_assoc]

theorem turnedAway_snoc {s t u : Batch α} {labels : List (Label α)} {label : Label α}
    {notes new : List (Note α)} (run : Run s labels notes t)
    (step : t.step label = some (u, new)) :
    s.turnedAway (labels ++ [label]) = s.turnedAway labels +
      (label.caller?.bind fun i => t.callers[i]?).elim 0 (Caller.turnedAway t) := by
  rw [turnedAway_append run]
  simp only [turnedAway, step, Nat.add_zero]

/-- What a caller's step adds to the history: what it has queued and what it has discarded. -/
theorem record_of_caller {s : Batch α} {i : Nat} (expired : Bool) {c : Caller α}
    (hc : s.callers[i]? = some c) (u : Batch α) :
    (s.record (.caller i expired) u).accepted.length = u.queue.length - s.queue.length ∧
      (s.record (.caller i expired) u).fates.count .discarded = c.discards s u := by
  constructor
  · simp [record, arrivals, Label.caller?, Queue.length]
  · unfold record fate Caller.discards
    simp only [Label.caller?, hc, List.count_replicate]
    cases c <;> rfl

theorem record_of_worker {s : Batch α} {label : Label α} (hl : label.caller? = none)
    (u : Batch α) :
    (s.record label u).accepted.length = 0 ∧
      (s.record label u).fates.count .discarded = s.worker.discards s u := by
  constructor
  · simp [record, arrivals, hl]
  · unfold record fate Worker.discards
    simp only [hl, List.count_replicate]
    cases s.worker <;> rfl

/-! ## Steps of single threads -/

/-- A sweep takes back what it has discarded and counts it as refused. -/
theorem Sweep.Moves.discards {s t : Batch α} {w : Sweep} {next : Option Sweep}
    {notes : List (Note α)} (h : w.Moves s t next notes) :
    t.queue.length ≤ s.queue.length ∧
      t.counters.received - next.elim 0 Sweep.held + (s.queue.length - t.queue.length).toUInt64
        = s.counters.received - w.held ∧
      t.counters.droppedAfterShutdown + next.elim 0 Sweep.late
        = s.counters.droppedAfterShutdown + w.late +
          (s.queue.length - t.queue.length).toUInt64 := by
  refine ⟨h.length_le, ?_⟩
  cases h with
  | @takes n a rest _ items =>
      have one : s.queue.length - (⟨s.queue.capacity, rest⟩ : Queue α).length = 1 := by
        rw [Queue.length_of_cons items]
        exact Nat.add_sub_cancel_left _ _
      simp only [one, Option.elim, Sweep.held, Sweep.late, toUInt64_succ]
      constructor <;> grind
  | unreceives =>
      simp only [count, Counters.unreceive, Option.elim, Sweep.held, Sweep.late, Nat.sub_self]
      constructor <;> grind
  | counts =>
      simp only [count, Counters.dropLate, Option.elim, Sweep.held, Sweep.late, Nat.sub_self]
      constructor <;> grind
  | _ =>
      simp only [Option.elim, Sweep.held, Sweep.late, Nat.sub_self]
      constructor <;> grind

theorem Caller.discards_of_keeps {s t : Batch α} (h : t.queue = s.queue) (c : Caller α) :
    c.discards s t = 0 := by
  cases c <;> simp [Caller.discards, h]

theorem Worker.discards_of_keeps {s t : Batch α} (h : t.queue = s.queue) (w : Worker α) :
    w.discards s t = 0 := by
  cases w <;> simp [Worker.discards, h]

theorem Caller.Moves.discards {s t : Batch α} {c c' : Caller α} {notes : List (Note α)}
    (h : c.Moves s t c' notes) :
    t.counters.received + c'.uncounted + (c.discards s t).toUInt64
        = s.counters.received + c.uncounted + (t.queue.length - s.queue.length).toUInt64 ∧
      t.counters.droppedAfterShutdown + c'.late
        = s.counters.droppedAfterShutdown + c.late +
          (c.turnedAway s + c.discards s t).toUInt64 := by
  -- Most steps leave the queue alone and count nothing that matters here.
  have keeps (queue : t.queue = s.queue)
      (received : t.counters.received + c'.uncounted = s.counters.received + c.uncounted)
      (refused : t.counters.droppedAfterShutdown + c'.late
        = s.counters.droppedAfterShutdown + c.late + (c.turnedAway s).toUInt64) :
      t.counters.received + c'.uncounted + (c.discards s t).toUInt64
          = s.counters.received + c.uncounted + (t.queue.length - s.queue.length).toUInt64 ∧
        t.counters.droppedAfterShutdown + c'.late
          = s.counters.droppedAfterShutdown + c.late +
            (c.turnedAway s + c.discards s t).toUInt64 := by
    rw [Caller.discards_of_keeps queue, queue, Nat.sub_self, received, refused]
    exact ⟨rfl, rfl⟩
  cases h with
  | sweeps hw | endsSweep hw =>
      obtain ⟨shorter, received, refused⟩ := hw.discards
      have none := Nat.sub_eq_zero_of_le shorter
      simp only [none, Option.elim, uncounted, late, turnedAway, Caller.discards, Nat.zero_add]
        at received refused ⊢
      constructor <;> grind
  | @queues a room =>
      have longer :
          (⟨s.queue.capacity, s.queue.items ++ [a]⟩ : Queue α).length = s.queue.length + 1 :=
        List.length_append
      have one : s.queue.length + 1 - s.queue.length = 1 := Nat.add_sub_cancel_left _ _
      have none : s.queue.length - (s.queue.length + 1) = 0 := Nat.sub_eq_zero_of_le (Nat.le_succ _)
      simp only [longer, one, none, uncounted, late, turnedAway, Caller.discards]
      constructor <;> grind
  | @evicts a old rest items =>
      have none : (⟨s.queue.capacity, rest⟩ : Queue α).length - s.queue.length = 0 :=
        Nat.sub_eq_zero_of_le (Queue.length_rest_le items)
      simp only [none, uncounted, late, turnedAway, Caller.discards]
      constructor <;> grind
  | comesLate shutdown | enters shutdown =>
      refine keeps rfl rfl ?_
      simp only [late, turnedAway, shutdown]
      grind
  | countsLate =>
      refine keeps rfl rfl ?_
      simp only [count, Counters.dropLate, late, turnedAway]
      grind
  | countsReceived =>
      refine keeps rfl ?_ (UInt64.add_zero _).symm
      simp only [count, Counters.receive, uncounted]
      grind
  | requestsFlush _ look | looksAtFlush look =>
      cases look <;> exact keeps rfl rfl (UInt64.add_zero _).symm
  | closesAgain _ look | closes _ look | looksAtShutdown look =>
      cases look <;> exact keeps rfl rfl (UInt64.add_zero _).symm
  | _ => exact keeps rfl rfl (UInt64.add_zero _).symm

theorem Worker.Moves.discards {s t : Batch α} {w w' : Worker α} {notes : List (Note α)}
    (h : w.Moves s t w' notes) :
    t.counters.received + w'.uncounted + (w.discards s t).toUInt64
        = s.counters.received + w.uncounted ∧
      t.counters.droppedAfterShutdown + w'.late
        = s.counters.droppedAfterShutdown + w.late + (w.discards s t).toUInt64 := by
  have keeps (queue : t.queue = s.queue)
      (received : t.counters.received + w'.uncounted = s.counters.received + w.uncounted)
      (refused : t.counters.droppedAfterShutdown + w'.late
        = s.counters.droppedAfterShutdown + w.late) :
      t.counters.received + w'.uncounted + (w.discards s t).toUInt64
          = s.counters.received + w.uncounted ∧
        t.counters.droppedAfterShutdown + w'.late
          = s.counters.droppedAfterShutdown + w.late + (w.discards s t).toUInt64 := by
    rw [Worker.discards_of_keeps queue, received, refused]
    exact ⟨UInt64.add_zero _, (UInt64.add_zero _).symm⟩
  cases h with
  | sweeps hw | endsSweep hw | unwindSweeps hw | endsUnwindSweep hw =>
      obtain ⟨-, received, refused⟩ := hw.discards
      simp only [Option.elim, uncounted, late, Worker.discards] at received refused ⊢
      constructor <;> grind
  | collects => exact ⟨UInt64.add_zero _, (UInt64.add_zero _).symm⟩
  | _ => exact keeps rfl rfl rfl

/-! ## Steps of the whole -/

/-- The counts of received and of refused records, with what the threads have under way, when so
many calls were turned away and so many records were accepted and discarded. -/
structure Taken (turned accepted discarded : Nat) (s : Batch α) : Prop where
  received : s.counters.received + (s.callers.map Caller.uncounted).sum + s.worker.uncounted +
    discarded.toUInt64 = accepted.toUInt64
  refused : s.counters.droppedAfterShutdown + (s.callers.map Caller.late).sum + s.worker.late =
    (turned + discarded).toUInt64

theorem Taken.caller {turned accepted discarded : Nat} {s t : Batch α} {c c' : Caller α} {i : Nat}
    {notes : List (Note α)} (h : Taken turned accepted discarded s) (hc : s.callers[i]? = some c)
    (hm : c.Moves s t c' notes) :
    Taken (turned + c.turnedAway s) (accepted + (t.queue.length - s.queue.length))
      (discarded + c.discards s t) { t with callers := t.callers.set i c' } := by
  obtain ⟨-, -, -, callers⟩ := hm.frame
  obtain ⟨received, refused⟩ := hm.discards
  have before := h.received
  have before' := h.refused
  rw [toUInt64_add] at before' refused
  constructor
  case received =>
    show t.counters.received + ((t.callers.set i c').map Caller.uncounted).sum +
      t.worker.uncounted + _ = _
    rw [callers, sum_set Caller.uncounted hc, hm.worker_eq Worker.uncounted Worker.uncounted_woken,
      toUInt64_add, toUInt64_add]
    grind
  case refused =>
    show t.counters.droppedAfterShutdown + ((t.callers.set i c').map Caller.late).sum +
      t.worker.late = _
    rw [callers, sum_set Caller.late hc, hm.worker_eq Worker.late Worker.late_woken,
      toUInt64_add, toUInt64_add, toUInt64_add]
    grind

theorem Taken.worker {turned accepted discarded : Nat} {s t : Batch α} {w : Worker α}
    {notes : List (Note α)} (h : Taken turned accepted discarded s)
    (hm : s.worker.Moves s t w notes) :
    Taken turned accepted (discarded + s.worker.discards s t) { t with worker := w } := by
  obtain ⟨-, -, callers⟩ := hm.frame
  obtain ⟨received, refused⟩ := hm.discards
  have uncounted : (t.callers.map Caller.uncounted).sum = (s.callers.map Caller.uncounted).sum := by
    rcases callers with same | woken
    · rw [same]
    · rw [woken, sum_notify _ Caller.uncounted_notify]
  have late : (t.callers.map Caller.late).sum = (s.callers.map Caller.late).sum := by
    rcases callers with same | woken
    · rw [same]
    · rw [woken, sum_notify _ Caller.late_notify]
  have before := h.received
  have before' := h.refused
  rw [toUInt64_add] at before'
  constructor
  case received =>
    show t.counters.received + (t.callers.map Caller.uncounted).sum + w.uncounted + _ = _
    rw [uncounted, toUInt64_add]
    grind
  case refused =>
    show t.counters.droppedAfterShutdown + (t.callers.map Caller.late).sum + w.late = _
    rw [late, toUInt64_add, toUInt64_add]
    grind

theorem Taken.begins {turned accepted discarded : Nat} {s : Batch α}
    (h : Taken turned accepted discarded s) (op : Operation α) :
    Taken turned accepted discarded { s with callers := s.callers ++ [op.place] } := by
  have uncounted : op.place.uncounted = 0 := by cases op <;> rfl
  have late : op.place.late = 0 := by cases op <;> rfl
  constructor
  case received =>
    show s.counters.received + ((s.callers ++ [op.place]).map Caller.uncounted).sum +
      s.worker.uncounted + _ = _
    rw [List.map_append, List.sum_append, List.map_singleton, List.sum_singleton, uncounted,
      UInt64.add_zero]
    exact h.received
  case refused =>
    show s.counters.droppedAfterShutdown + ((s.callers ++ [op.place]).map Caller.late).sum +
      s.worker.late = _
    rw [List.map_append, List.sum_append, List.map_singleton, List.sum_singleton, late,
      UInt64.add_zero]
    exact h.refused

/-- In every state of every run the two counts are those of the history, but for what is under
way. -/
theorem Run.taken {name : String} {config : BatchConfig} {s : Batch α} {labels : List (Label α)}
    {notes : List (Note α)} (run : Run (start name config) labels notes s) :
    Taken ((start name config).turnedAway labels)
      ((start name config).history labels).accepted.length
      (((start name config).history labels).fates.count .discarded) s := by
  induction run with
  | nil => exact ⟨rfl, rfl⟩
  | @snoc s u labels notes new label run step ih =>
      rw [history_snoc run step, turnedAway_snoc run step, History.followedBy,
        List.length_append, List.count_append]
      cases moves_of_step step with
      | begins op =>
          have nothing :
              s.record (.begins op) { s with callers := s.callers ++ [op.place] } = .empty :=
            record_of_keeps _ rfl
          rw [nothing]
          exact ih.begins op
      | @caller i expired c c' t _ hc hm =>
          obtain ⟨accepted, discarded⟩ :=
            record_of_caller expired hc { t with callers := t.callers.set i c' }
          rw [accepted, discarded]
          simp only [Label.caller?, Option.bind_some, hc, Option.elim_some]
          exact ih.caller hc hm
      | @worker label t w _ hl _ hm =>
          obtain ⟨accepted, discarded⟩ := record_of_worker hl { t with worker := w }
          rw [accepted, discarded, hl]
          have moved := ih.worker hm
          exact moved

/-! ## At rest -/

end Telemetry.Batch
