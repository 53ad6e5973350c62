import Mathlib.Algebra.BigOperators.Group.List.Basic
import Mathlib.Data.UInt
import Telemetry.Proofs.Batch.Leftovers
import Telemetry.Proofs.Batch.Shutdown

set_option autoImplicit false

/-! # The counters add up

Each counter is changed by the thread that settles a record, at a moment of its own, so the sums
that the counters promise hold only while nothing is under way. The invariant `Balanced` holds
always: to each counted sum it adds what the threads still have to count, read off their places.
Where every call that brought a record has returned and the worker is at rest, nothing is added.

All sums are sums of 64-bit words. -/

namespace Telemetry.Batch

variable {α : Type}

/-! ## What the threads still have to count -/

/-- The calls that a sweep has taken back from those received and still has to count as late. -/
def Sweep.owed : Sweep → UInt64
  | .counting n => n.toUInt64
  | _ => 0

/-- The records that a sweep has taken out of the queue and that still count as received. -/
def Sweep.held : Sweep → UInt64
  | .taking n | .unreceiving n => n.toUInt64
  | .counting _ => 0

/-- The calls that a caller still has to count: its own one, or those it has taken back. -/
def Caller.owed : Caller α → UInt64
  | .receiving _ | .refusing _ | .offering _ | .evicting _ | .overflowing _ _ | .counting => 1
  | .warning _ (some _) | .discarding _ (some _) => 1
  | .sweeping w => w.owed
  | _ => 0

/-- The records that a caller has taken out of the queue and still has to count; a record that is
queued and not yet counted as received counts as one less. -/
def Caller.held : Caller α → UInt64
  | .overflowing _ (some _) => 1
  | .counting => -1
  | .sweeping w => w.held
  | _ => 0

/-- The calls that the worker still has to count as late. -/
def Worker.owed : Worker α → UInt64
  | .sweeping w _ _ | .unwindSweeping w => w.owed
  | _ => 0

/-- The records that the worker has taken out of the queue and still has to count. -/
def Worker.held : Worker α → UInt64
  | .collecting _ batch | .sending _ batch => batch.length.toUInt64
  | .countingExported _ size | .countingFailure _ size _ | .countingFailed _ size _ =>
    size.toUInt64
  | .sweeping w _ _ | .unwindSweeping w => w.held
  | _ => 0

/-- The records lost to a full queue under a policy. -/
def lost (s : Batch α) (policy : OverflowPolicy) : UInt64 :=
  if s.config.overflow = policy then s.counters.droppedOverflow else 0

/-- The calls that were counted. Under the policy that drops the oldest records, a lost record is
not the one that its call brought. -/
def answered (s : Batch α) : UInt64 :=
  s.counters.received + s.counters.droppedAfterShutdown + s.lost .dropNewest

/-- The received records that are in the queue or were counted on the way out, less all received
ones. -/
def placed (s : Batch α) : UInt64 :=
  s.counters.exported + s.counters.recordsFailed + s.lost .dropOldest +
    s.queue.length.toUInt64 - s.counters.received

/-- Whether a place of a caller occurs under a policy. -/
def Caller.Suits (policy : OverflowPolicy) : Caller α → Prop
  | .evicting _ => policy = .dropOldest
  | .overflowing _ next | .warning _ next | .discarding _ next =>
    if next.isSome then policy = .dropOldest else policy = .dropNewest
  | _ => True

/-- With what the threads still have to count, the counters add up: `n` calls have begun that
bring a record. -/
structure Balanced (n : Nat) (s : Batch α) : Prop where
  policy : ∀ c ∈ s.callers, c.Suits s.config.overflow
  calls : s.answered + (s.callers.map Caller.owed).sum + s.worker.owed = n.toUInt64
  records : s.placed + (s.callers.map Caller.held).sum + s.worker.held = 0

theorem lost_start (name : String) (config : BatchConfig) (policy : OverflowPolicy) :
    (start name config : Batch α).lost policy = 0 := by
  unfold lost
  split <;> rfl

theorem balanced_start (name : String) (config : BatchConfig) :
    Balanced 0 (start name config : Batch α) where
  policy := nofun
  calls := by
    rw [answered, lost_start]
    rfl
  records := by
    rw [placed, lost_start]
    show (0 + 0 + 0 + 0 - 0 + 0 + 0 : UInt64) = 0
    decide

/-! ## Sums over the callers -/

/-- Moving one caller changes a sum by the difference of its places. -/
theorem sum_set (f : Caller α → UInt64) {callers : List (Caller α)} {i : Nat} {c : Caller α}
    (h : callers[i]? = some c) (c' : Caller α) :
    ((callers.set i c').map f).sum = (callers.map f).sum - f c + f c' := by
  obtain ⟨hi, rfl⟩ := List.getElem?_eq_some_iff.1 h
  have bound : i < (callers.map f).length := by rwa [List.length_map]
  rw [List.map_set, List.sum_set', dif_pos bound, List.getElem_map]
  grind

@[simp] theorem Caller.owed_notify (c : Caller α) : c.notify.owed = c.owed := by
  cases c <;> rfl

@[simp] theorem Caller.held_notify (c : Caller α) : c.notify.held = c.held := by
  cases c <;> rfl

@[simp] theorem Worker.owed_woken (w : Worker α) : w.woken.owed = w.owed := by
  cases w <;> rfl

@[simp] theorem Worker.held_woken (w : Worker α) : w.woken.held = w.held := by
  cases w <;> rfl

theorem sum_notify (f : Caller α → UInt64) (h : ∀ c, f c.notify = f c)
    (callers : List (Caller α)) :
    ((callers.map Caller.notify).map f).sum = (callers.map f).sum := by
  rw [List.map_map]
  congr 2
  funext c
  exact h c

/-! ## Steps of single threads -/

/-- A sweep only moves records between its own hands and the counters. -/
theorem Sweep.Moves.balance {s t : Batch α} {w : Sweep} {next : Option Sweep}
    {notes : List (Note α)} (h : w.Moves s t next notes) :
    t.answered + (next.elim 0 Sweep.owed) = s.answered + w.owed ∧
      t.placed + (next.elim 0 Sweep.held) = s.placed + w.held := by
  cases h with
  | @takes n a rest _ items =>
      refine ⟨rfl, ?_⟩
      simp only [placed, lost, Queue.length, items, List.length_cons, toUInt64_succ, Option.elim,
        Sweep.held]
      grind
  | findsNothing => exact ⟨rfl, rfl⟩
  | stops => exact ⟨rfl, rfl⟩
  | unreceives =>
      simp only [answered, placed, lost, count, Counters.unreceive, Option.elim, Sweep.owed,
        Sweep.held]
      constructor <;> grind
  | counts =>
      simp only [answered, placed, lost, count, Counters.dropLate, Option.elim, Sweep.owed,
        Sweep.held]
      constructor <;> grind

theorem Caller.Moves.balance {s t : Batch α} {c c' : Caller α} {notes : List (Note α)}
    (h : c.Moves s t c' notes) (suits : c.Suits s.config.overflow) :
    t.answered + c'.owed = s.answered + c.owed ∧ t.placed + c'.held = s.placed + c.held := by
  cases h with
  | sweeps hw | endsSweep hw => exact hw.balance
  | @queues a room =>
      refine ⟨rfl, ?_⟩
      simp only [placed, lost, Caller.held, Queue.length, List.length_append,
        List.length_singleton, toUInt64_succ]
      grind
  | @evicts a old rest items =>
      refine ⟨rfl, ?_⟩
      simp only [placed, lost, Queue.length, items, List.length_cons, toUInt64_succ, held]
      grind
  | @countsOverflow gone next =>
      -- Under each policy the loss moves from the caller's hand into one of the two sums.
      cases next with
      | none =>
          have policy : s.config.overflow = .dropNewest := by simpa [Suits] using suits
          simp only [answered, placed, lost, count, Counters.overflow, owed, held, policy]
          constructor <;> grind
      | some a =>
          have policy : s.config.overflow = .dropOldest := by simpa [Suits] using suits
          simp only [answered, placed, lost, count, Counters.overflow, owed, held, policy]
          constructor <;> grind
  | @warns gone next => cases next <;> exact ⟨rfl, rfl⟩
  | countsLate | countsReceived =>
      simp only [answered, placed, lost, count, Counters.dropLate, Counters.receive, owed, held]
      constructor <;> grind
  | requestsFlush _ look | looksAtFlush look => cases look <;> exact ⟨rfl, rfl⟩
  | closesAgain _ look | closes _ look | looksAtShutdown look => cases look <;> exact ⟨rfl, rfl⟩
  | _ => exact ⟨rfl, rfl⟩

theorem Worker.Moves.balance {s t : Batch α} {w w' : Worker α} {notes : List (Note α)}
    (h : w.Moves s t w' notes) :
    t.answered + w'.owed = s.answered + w.owed ∧ t.placed + w'.held = s.placed + w.held := by
  cases h with
  | sweeps hw | endsSweep hw | unwindSweeps hw | endsUnwindSweep hw => exact hw.balance
  | @collects p batch a rest _ items =>
      refine ⟨rfl, ?_⟩
      simp only [placed, lost, Queue.length, items, List.length_append, List.length_cons,
        List.length_nil, Nat.zero_add, toUInt64_succ, held]
      grind
  | countsExported | countsFailed =>
      simp only [answered, placed, lost, count, Counters.exportRecords, Counters.failRecords,
        owed, held]
      constructor <;> grind
  | _ => exact ⟨rfl, rfl⟩

theorem Caller.Moves.suits {s t : Batch α} {c c' : Caller α} {notes : List (Note α)}
    (h : c.Moves s t c' notes) (suits : c.Suits s.config.overflow) :
    c'.Suits s.config.overflow := by
  cases h with
  | losesNewest _ policy | makesRoom _ policy => exact policy
  | evicts | countsOverflow | warns => exact suits
  | requestsFlush _ look | looksAtFlush look => cases look <;> trivial
  | closesAgain _ look | closes _ look | looksAtShutdown look => cases look <;> trivial
  | _ => trivial

/-! ## Steps of the whole -/

/-- How many calls that bring a record have begun. -/
def receiveCount (labels : List (Label α)) : Nat :=
  (operations labels).countP Operation.isReceive

theorem receiveCount_snoc_begins (labels : List (Label α)) (op : Operation α) :
    receiveCount (labels ++ [.begins op]) =
      receiveCount labels + if op.isReceive then 1 else 0 :=
  countP_operations_snoc_begins Operation.isReceive labels op

theorem receiveCount_snoc {label : Label α} (h : ∀ op, label ≠ .begins op)
    (labels : List (Label α)) : receiveCount (labels ++ [label]) = receiveCount labels :=
  countP_operations_snoc Operation.isReceive h labels

theorem Balanced.caller {n : Nat} {s t : Batch α} {c c' : Caller α} {i : Nat}
    {notes : List (Note α)} (h : Balanced n s) (hc : s.callers[i]? = some c)
    (hm : c.Moves s t c' notes) : Balanced n { t with callers := t.callers.set i c' } := by
  obtain ⟨config, -, -, callers⟩ := hm.frame
  have suits := h.policy c (List.mem_of_getElem? hc)
  obtain ⟨answered, placed⟩ := hm.balance suits
  constructor
  case policy =>
    intro d hd
    show d.Suits t.config.overflow
    rw [config]
    rcases List.mem_or_eq_of_mem_set hd with old | rfl
    · exact h.policy d (callers ▸ old)
    · exact hm.suits suits
  case calls =>
    show t.answered + ((t.callers.set i c').map Caller.owed).sum + t.worker.owed = n.toUInt64
    rw [callers, sum_set Caller.owed hc, hm.worker_eq Worker.owed Worker.owed_woken, ← h.calls]
    grind
  case records =>
    show t.placed + ((t.callers.set i c').map Caller.held).sum + t.worker.held = 0
    rw [callers, sum_set Caller.held hc, hm.worker_eq Worker.held Worker.held_woken, ← h.records]
    grind

theorem Balanced.worker {n : Nat} {s t : Batch α} {w : Worker α} {notes : List (Note α)}
    (h : Balanced n s) (hm : s.worker.Moves s t w notes) : Balanced n { t with worker := w } := by
  obtain ⟨config, -, callers⟩ := hm.frame
  obtain ⟨answered, placed⟩ := hm.balance
  have owed : (t.callers.map Caller.owed).sum = (s.callers.map Caller.owed).sum := by
    rcases callers with same | woken
    · rw [same]
    · rw [woken, sum_notify _ Caller.owed_notify]
  have held : (t.callers.map Caller.held).sum = (s.callers.map Caller.held).sum := by
    rcases callers with same | woken
    · rw [same]
    · rw [woken, sum_notify _ Caller.held_notify]
  constructor
  case policy =>
    intro d hd
    show d.Suits t.config.overflow
    rw [config]
    rcases callers with same | woken
    · exact h.policy d (same ▸ hd)
    · have mem : d ∈ s.callers.map Caller.notify := woken ▸ hd
      obtain ⟨c, hc, rfl⟩ := List.mem_map.1 mem
      have suits := h.policy c hc
      cases c <;> exact suits
  case calls =>
    show t.answered + (t.callers.map Caller.owed).sum + w.owed = n.toUInt64
    rw [owed, ← h.calls]
    grind
  case records =>
    show t.placed + (t.callers.map Caller.held).sum + w.held = 0
    rw [held, ← h.records]
    grind

theorem Balanced.begins {n : Nat} {s : Batch α} (h : Balanced n s) (op : Operation α) :
    Balanced (n + if op.isReceive then 1 else 0) { s with callers := s.callers ++ [op.place] } := by
  constructor
  case policy =>
    intro c hc
    rcases List.mem_append.1 hc with old | new
    · exact h.policy c old
    · rw [List.mem_singleton.1 new]
      cases op <;> trivial
  case calls =>
    show s.answered + ((s.callers ++ [op.place]).map Caller.owed).sum + s.worker.owed = _
    have one : op.place.owed = if op.isReceive then 1 else 0 := by cases op <;> rfl
    rw [List.map_append, List.sum_append, List.map_singleton, List.sum_singleton, one]
    have before := h.calls
    split
    · rw [toUInt64_succ]
      grind
    · rw [Nat.add_zero]
      grind
  case records =>
    show s.placed + ((s.callers ++ [op.place]).map Caller.held).sum + s.worker.held = 0
    have none : op.place.held = 0 := by cases op <;> rfl
    rw [List.map_append, List.sum_append, List.map_singleton, List.sum_singleton, none]
    have before := h.records
    grind

/-- The counters add up in every state of every run. -/
theorem Run.balanced {name : String} {config : BatchConfig} {s : Batch α}
    {labels : List (Label α)} {notes : List (Note α)}
    (run : Run (start name config) labels notes s) : Balanced (receiveCount labels) s := by
  induction run with
  | nil => exact balanced_start name config
  | snoc _ step ih =>
      cases moves_of_step step with
      | begins op =>
          rw [receiveCount_snoc_begins]
          exact ih.begins op
      | caller hc hm =>
          rw [receiveCount_snoc (by intro op; exact nofun)]
          exact ih.caller hc hm
      | worker _ other hm =>
          rw [receiveCount_snoc other]
          exact ih.worker hm

/-! ## At rest -/

/-- Whether a caller is in a call that brings a record. -/
def Caller.receives : Caller α → Bool
  | .flushing _ | .requestingFlush _ | .awaitingFlush _ _ _ => false
  | .dropping | .closing _ _ | .awaitingShutdown _ _ _ | .claiming _ _ => false
  | .joining _ _ | .leaving _ _ | .done _ => false
  | _ => true

/-- Whether the worker is parked or has ended. -/
def Worker.atRest : Worker α → Bool
  | .asleep _ | .stopped _ => true
  | _ => false

theorem Caller.settled_of_not_receives {c : Caller α} (h : c.receives = false) :
    c.owed = 0 ∧ c.held = 0 ∧ ∀ q, ¬ c.Covers q := by
  cases c with
  | flushing | requestingFlush | awaitingFlush | dropping | closing | awaitingShutdown | claiming |
    joining | leaving | done => exact ⟨rfl, rfl, fun _ => id⟩
  | _ => cases h

theorem Worker.settled_of_atRest {w : Worker α} (h : w.atRest = true) :
    w.owed = 0 ∧ w.held = 0 ∧ ∀ q, ¬ w.Covers q := by
  cases w with
  | asleep | stopped => exact ⟨rfl, rfl, fun _ => id⟩
  | _ => cases h

theorem sum_eq_zero {f : Caller α → UInt64} {callers : List (Caller α)}
    (h : ∀ c ∈ callers, f c = 0) : (callers.map f).sum = 0 := by
  induction callers with
  | nil => rfl
  | cons c callers ih =>
      rw [List.map_cons, List.sum_cons, h c List.mem_cons_self,
        ih fun d hd => h d (List.mem_cons_of_mem c hd), UInt64.zero_add]

/-- When every call that brought a record has returned and the worker has ended, the queue is
empty. -/
theorem Run.empty_of_stopped {name : String} {config : BatchConfig} {s : Batch α}
    {labels : List (Label α)} {notes : List (Note α)}
    (run : Run (start name config) labels notes s)
    (returned : ∀ c ∈ s.callers, c.receives = false) {panicked : Bool}
    (stopped : s.worker = .stopped panicked) : s.queue.items = [] := by
  have isOver : s.isDrained = true :=
    (run.shutsDown (shutsDown_start name config)).sealed (by rw [stopped]; rfl)
  rcases run.swept.covered isOver with empty | ⟨i, c, hc, covers⟩ | covers
  · exact empty
  · have settled := Caller.settled_of_not_receives (returned c (List.mem_of_getElem? hc))
    exact absurd covers (settled.2.2 s.queue)
  · rw [stopped] at covers
    exact covers.elim

/-- Whenever every call that brought a record has returned and the worker is parked or has ended,
the counters account for every call and for every received record, under both policies; and once
the worker has ended, the queue is empty. -/
theorem counters_add_up {name : String} {config : BatchConfig} {s : Batch α}
    {labels : List (Label α)} {notes : List (Note α)}
    (run : Run (start name config) labels notes s)
    (returned : ∀ c ∈ s.callers, c.receives = false) (rest : s.worker.atRest = true) :
    (config.overflow = .dropNewest →
      s.counters.received + s.counters.droppedOverflow + s.counters.droppedAfterShutdown
          = (receiveCount labels).toUInt64 ∧
        s.counters.received
          = s.counters.exported + s.counters.recordsFailed + s.queue.length.toUInt64) ∧
    (config.overflow = .dropOldest →
      s.counters.received + s.counters.droppedAfterShutdown = (receiveCount labels).toUInt64 ∧
        s.counters.received
          = s.counters.exported + s.counters.recordsFailed + s.counters.droppedOverflow +
              s.queue.length.toUInt64) ∧
    (∀ panicked, s.worker = .stopped panicked → s.queue.length = 0) := by
  have balanced := run.balanced
  obtain ⟨owed, held, -⟩ := Worker.settled_of_atRest rest
  -- Nothing is under way, so the counted sums are the whole sums.
  have calls : s.answered = (receiveCount labels).toUInt64 := by
    have sum := sum_eq_zero fun c hc => (Caller.settled_of_not_receives (returned c hc)).1
    have all := balanced.calls
    rw [sum, owed] at all
    grind
  have records : s.placed = 0 := by
    have sum := sum_eq_zero fun c hc => (Caller.settled_of_not_receives (returned c hc)).2.1
    have all := balanced.records
    rw [sum, held] at all
    grind
  unfold answered lost at calls
  unfold placed lost at records
  have policy : s.config.overflow = config.overflow := by rw [run.config]; rfl
  rw [policy] at calls records
  refine ⟨?newest, ?oldest, ?empty⟩
  case newest =>
    intro newest
    simp only [newest] at calls records
    constructor <;> grind
  case oldest =>
    intro oldest
    simp only [oldest] at calls records
    constructor <;> grind
  case empty =>
    intro panicked stopped
    exact Queue.length_of_nil (run.empty_of_stopped returned stopped)

/-- Two records for a queue with room for one: the second takes the place of the first. -/
def twoRecords : List (Label Nat) :=
  [.worker false, .begins (.receive 1), .begins (.receive 2)] ++
    List.replicate 7 (.caller 0 false) ++ List.replicate 11 (.caller 1 false)

theorem counters_add_up_of_two :
    ∃ (s : Batch Nat) (notes : List (Note Nat)),
      Run (start "logs" (smallest .dropOldest)) twoRecords notes s ∧
      (∀ c ∈ s.callers, c.receives = false) ∧ s.worker.atRest = true ∧
      s.counters.received + s.counters.droppedAfterShutdown = 2 ∧
      s.counters.received = s.counters.exported + s.counters.recordsFailed +
        s.counters.droppedOverflow + s.queue.length.toUInt64 := by
  obtain ⟨s, notes, run, h⟩ := exists_run (start "logs" (smallest .dropOldest)) twoRecords
    (fun s _ => s.callers.all (fun c => !c.receives) && s.worker.atRest) (by decide +kernel)
  simp only [Bool.and_eq_true, List.all_eq_true, Bool.not_eq_true'] at h
  exact ⟨s, notes, run, h.1, h.2, (counters_add_up run h.1 h.2).2.1 rfl⟩

end Telemetry.Batch
