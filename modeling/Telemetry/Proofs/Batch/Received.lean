import Telemetry.Proofs.Batch.Accounting

set_option autoImplicit false

/-! # How far the count of received records goes

A call queues its record first and counts it as received afterwards. In between, a thread that
discards what came behind the final drain may already take the record back, so the counter stands
below zero for a moment, which for a 64-bit word is far above. Together with the records that are
queued and not counted yet, the counter never shows more than the number of calls that bring a
record. -/

namespace Telemetry.Batch

variable {α : Type}

/-! ## What is under way -/

/-- The records that a sweep has discarded and still has to take back from those received. -/
def Sweep.untaken : Sweep → Nat
  | .taking n | .unreceiving n => n
  | .counting _ => 0

/-- The records that a caller has discarded and still has to take back from those received. -/
def Caller.untaken : Caller α → Nat
  | .sweeping w => w.untaken
  | _ => 0

/-- The records that the worker has discarded and still has to take back from those received. -/
def Worker.untaken : Worker α → Nat
  | .sweeping w _ _ | .unwindSweeping w => w.untaken
  | _ => 0

/-- The records that a caller has queued and not counted yet. -/
def Caller.queued : Caller α → Nat
  | .counting => 1
  | _ => 0

/-- The records that a caller may still queue. -/
def Caller.unqueued : Caller α → Nat
  | .receiving _ | .offering _ | .evicting _ => 1
  | .overflowing _ next | .warning _ next | .discarding _ next => if next.isSome then 1 else 0
  | _ => 0

@[simp] theorem Caller.untaken_notify (c : Caller α) : c.notify.untaken = c.untaken := by
  cases c <;> rfl

@[simp] theorem Caller.queued_notify (c : Caller α) : c.notify.queued = c.queued := by
  cases c <;> rfl

@[simp] theorem Caller.unqueued_notify (c : Caller α) : c.notify.unqueued = c.unqueued := by
  cases c <;> rfl

@[simp] theorem Worker.untaken_woken (w : Worker α) : w.woken.untaken = w.untaken := by
  cases w <;> rfl

/-! ## Totals over the callers -/

/-- A number of records summed over the callers. -/
def total (f : Caller α → Nat) (callers : List (Caller α)) : Nat :=
  callers.foldr (fun c n => f c + n) 0

theorem total_cons (f : Caller α → Nat) (c : Caller α) (callers : List (Caller α)) :
    total f (c :: callers) = f c + total f callers :=
  rfl

theorem total_snoc (f : Caller α → Nat) (callers : List (Caller α)) (c : Caller α) :
    total f (callers ++ [c]) = total f callers + f c := by
  induction callers with
  | nil => exact Nat.add_comm _ _
  | cons d callers ih => rw [List.cons_append, total_cons, total_cons, ih, Nat.add_assoc]

/-- Moving one caller changes a total by the difference of its places. -/
theorem total_set (f : Caller α → Nat) {callers : List (Caller α)} {i : Nat} {c : Caller α}
    (h : callers[i]? = some c) (c' : Caller α) :
    total f (callers.set i c') + f c = total f callers + f c' := by
  induction callers generalizing i with
  | nil => cases h
  | cons d callers ih =>
      cases i with
      | zero =>
          cases h
          rw [List.set_cons_zero, total_cons, total_cons]
          omega
      | succ i =>
          have rest := ih h
          rw [List.set_cons_succ, total_cons, total_cons]
          omega

theorem total_notify (f : Caller α → Nat) (h : ∀ c, f c.notify = f c)
    (callers : List (Caller α)) : total f (callers.map Caller.notify) = total f callers := by
  induction callers with
  | nil => rfl
  | cons c callers ih => rw [List.map_cons, total_cons, total_cons, ih, h]

theorem total_eq_zero {f : Caller α → Nat} {callers : List (Caller α)}
    (h : ∀ c ∈ callers, f c = 0) : total f callers = 0 := by
  induction callers with
  | nil => rfl
  | cons c callers ih =>
      obtain ⟨first, rest⟩ := List.forall_mem_cons.1 h
      rw [total_cons, first, ih rest]

/-! ## Steps of single threads -/

/-- A sweep takes back only what it has discarded. -/
theorem Sweep.Moves.takesBack {s t : Batch α} {w : Sweep} {next : Option Sweep}
    {notes : List (Note α)} (h : w.Moves s t next notes) :
    ∃ back : Nat, t.counters.received + back.toUInt64 = s.counters.received ∧
      t.queue.length + next.elim 0 Sweep.untaken + back ≤ s.queue.length + w.untaken := by
  cases h with
  | @takes n a rest _ items =>
      refine ⟨0, UInt64.add_zero _, ?_⟩
      rw [Queue.length_of_cons items]
      show rest.length + (n + 1) + 0 ≤ rest.length + 1 + n
      omega
  | @unreceives n =>
      exact ⟨n, UInt64.sub_add_cancel .., Nat.le_refl _⟩
  | counts => exact ⟨0, UInt64.add_zero _, Nat.le_refl _⟩
  | findsNothing | stops => exact ⟨0, UInt64.add_zero _, Nat.le_refl _⟩

/-- A caller queues `one` record that it had to queue, or takes `back` records that it or another
one has queued. -/
theorem Caller.Moves.takesBack {s t : Batch α} {c c' : Caller α} {notes : List (Note α)}
    (h : c.Moves s t c' notes) :
    ∃ one back : Nat,
      t.counters.received + c'.queued.toUInt64 + back.toUInt64
        = s.counters.received + c.queued.toUInt64 + one.toUInt64 ∧
      t.queue.length + c'.untaken + back ≤ s.queue.length + c.untaken + one ∧
      one + c'.unqueued ≤ c.unqueued := by
  -- Most steps leave all of this alone.
  have keeps (received : t.counters.received = s.counters.received)
      (queue : t.queue.length ≤ s.queue.length) (queued : c'.queued = c.queued)
      (untaken : c'.untaken = c.untaken) (unqueued : c'.unqueued ≤ c.unqueued) :
      ∃ one back : Nat,
        t.counters.received + c'.queued.toUInt64 + back.toUInt64
          = s.counters.received + c.queued.toUInt64 + one.toUInt64 ∧
        t.queue.length + c'.untaken + back ≤ s.queue.length + c.untaken + one ∧
        one + c'.unqueued ≤ c.unqueued := by
    refine ⟨0, 0, ?_, ?_, ?_⟩
    · rw [received, queued]
    · omega
    · omega
  cases h with
  | sweeps hw | endsSweep hw =>
      obtain ⟨back, received, held⟩ := hw.takesBack
      refine ⟨0, back, ?_, held, Nat.le_refl _⟩
      rw [← received]
      simp only [queued]
      grind
  | queues room =>
      refine ⟨1, 0, ?_, ?_, Nat.le_refl _⟩
      · simp only [queued]
        grind
      · show (s.queue.items ++ [_]).length + 0 + 0 ≤ s.queue.length + 0 + 1
        rw [List.length_append]
        exact Nat.le_refl _
  | evicts items => exact keeps rfl (Queue.length_rest_le items) rfl rfl (Nat.le_refl _)
  | countsReceived =>
      refine ⟨0, 0, ?_, Nat.le_refl _, Nat.le_refl _⟩
      simp only [count, Counters.receive, queued]
      grind
  | requestsFlush _ look | looksAtFlush look =>
      cases look <;> exact keeps rfl (Nat.le_refl _) rfl rfl (Nat.le_refl _)
  | closesAgain _ look | closes _ look | looksAtShutdown look =>
      cases look <;> exact keeps rfl (Nat.le_refl _) rfl rfl (Nat.le_refl _)
  | comesLate | losesNewest => exact keeps rfl (Nat.le_refl _) rfl rfl (Nat.zero_le _)
  | _ => exact keeps rfl (Nat.le_refl _) rfl rfl (Nat.le_refl _)

theorem Worker.Moves.takesBack {s t : Batch α} {w w' : Worker α} {notes : List (Note α)}
    (h : w.Moves s t w' notes) :
    ∃ back : Nat, t.counters.received + back.toUInt64 = s.counters.received ∧
      t.queue.length + w'.untaken + back ≤ s.queue.length + w.untaken := by
  cases h with
  | sweeps hw | endsSweep hw | unwindSweeps hw | endsUnwindSweep hw => exact hw.takesBack
  | collects _ items =>
      exact ⟨0, UInt64.add_zero _, Nat.add_le_add_right (Queue.length_rest_le items) _⟩
  | _ => exact ⟨0, UInt64.add_zero _, Nat.le_refl _⟩

/-! ## Steps of the whole -/

/-- Of the `n` calls that have begun to bring a record, `k` have a record that was queued and was
not taken back. -/
structure Covered (n k : Nat) (s : Batch α) : Prop where
  /-- They are counted, or will be. -/
  received : s.counters.received + (total Caller.queued s.callers).toUInt64 = k.toUInt64
  /-- Whatever is in the queue or was discarded and not taken back yet is among them. -/
  covers : s.queue.length + total Caller.untaken s.callers + s.worker.untaken ≤ k
  /-- The others are more than those that may still be queued. -/
  begun : k + total Caller.unqueued s.callers ≤ n

theorem Covered.caller {n k : Nat} {s t : Batch α} {c c' : Caller α} {i : Nat}
    {notes : List (Note α)} (h : Covered n k s) (hc : s.callers[i]? = some c)
    (hm : c.Moves s t c' notes) : ∃ k', Covered n k' { t with callers := t.callers.set i c' } := by
  obtain ⟨-, -, -, callers⟩ := hm.frame
  obtain ⟨one, back, received, held, queued⟩ := hm.takesBack
  have worker := hm.worker_eq Worker.untaken Worker.untaken_woken
  have queuedAll := total_set Caller.queued hc c'
  have untakenAll := total_set Caller.untaken hc c'
  have unqueuedAll := total_set Caller.unqueued hc c'
  have covers := h.covers
  have begun := h.begun
  have before := h.received
  have fits : back ≤ k + one := by omega
  refine ⟨k + one - back, ?_, ?_, ?_⟩
  · show t.counters.received + (total Caller.queued (t.callers.set i c')).toUInt64 = _
    have all := congrArg Nat.toUInt64 queuedAll
    have new := congrArg Nat.toUInt64 (Nat.sub_add_cancel fits)
    rw [toUInt64_add, toUInt64_add] at all new
    rw [callers]
    grind
  · show t.queue.length + total Caller.untaken (t.callers.set i c') + t.worker.untaken ≤ _
    rw [callers, worker]
    omega
  · show k + one - back + total Caller.unqueued (t.callers.set i c') ≤ n
    rw [callers]
    omega

theorem Covered.worker {n k : Nat} {s t : Batch α} {w : Worker α} {notes : List (Note α)}
    (h : Covered n k s) (hm : s.worker.Moves s t w notes) :
    ∃ k', Covered n k' { t with worker := w } := by
  obtain ⟨-, -, callers⟩ := hm.frame
  obtain ⟨back, received, held⟩ := hm.takesBack
  have same (f : Caller α → Nat) (notify : ∀ c, f c.notify = f c) :
      total f t.callers = total f s.callers := by
    rcases callers with same | woken
    · rw [same]
    · rw [woken, total_notify f notify]
  have queued := same Caller.queued Caller.queued_notify
  have untaken := same Caller.untaken Caller.untaken_notify
  have unqueued := same Caller.unqueued Caller.unqueued_notify
  have covers := h.covers
  have begun := h.begun
  have before := h.received
  have fits : back ≤ k := by omega
  refine ⟨k - back, ?_, ?_, ?_⟩
  · show t.counters.received + (total Caller.queued t.callers).toUInt64 = _
    have new := congrArg Nat.toUInt64 (Nat.sub_add_cancel fits)
    rw [toUInt64_add] at new
    rw [queued]
    grind
  · show t.queue.length + total Caller.untaken t.callers + w.untaken ≤ _
    omega
  · show k - back + total Caller.unqueued t.callers ≤ n
    omega

theorem Covered.begins {n k : Nat} {s : Batch α} (h : Covered n k s) (op : Operation α) :
    Covered (n + if op.isReceive then 1 else 0) k
      { s with callers := s.callers ++ [op.place] } := by
  have queued : op.place.queued = 0 := by cases op <;> rfl
  have untaken : op.place.untaken = 0 := by cases op <;> rfl
  have unqueued : op.place.unqueued = if op.isReceive then 1 else 0 := by cases op <;> rfl
  constructor
  case received =>
    show s.counters.received + (total Caller.queued (s.callers ++ [op.place])).toUInt64 = _
    rw [total_snoc, queued]
    exact h.received
  case covers =>
    show s.queue.length + total Caller.untaken (s.callers ++ [op.place]) + s.worker.untaken ≤ _
    rw [total_snoc, untaken]
    exact h.covers
  case begun =>
    show k + total Caller.unqueued (s.callers ++ [op.place]) ≤ _
    rw [total_snoc, unqueued, ← Nat.add_assoc]
    exact Nat.add_le_add_right h.begun _

theorem Run.covered {name : String} {config : BatchConfig} {s : Batch α}
    {labels : List (Label α)} {notes : List (Note α)}
    (run : Run (start name config) labels notes s) : ∃ k, Covered (receiveCount labels) k s := by
  induction run with
  | nil => exact ⟨0, rfl, Nat.le_refl 0, Nat.le_refl 0⟩
  | snoc _ step ih =>
      obtain ⟨k, covered⟩ := ih
      cases moves_of_step step with
      | begins op =>
          rw [receiveCount_snoc_begins]
          exact ⟨k, covered.begins op⟩
      | caller hc hm =>
          rw [receiveCount_snoc (by intro op; exact nofun)]
          exact covered.caller hc hm
      | worker _ other hm =>
          rw [receiveCount_snoc other]
          exact covered.worker hm

/-! ## The bound -/

/-- The counter of received records, with those that are queued and not counted yet, shows at most
the number of calls that bring a record. So does the counter alone as long as no call stands between
queueing its record and counting it. -/
theorem received_le_calls {name : String} {config : BatchConfig} {s : Batch α}
    {labels : List (Label α)} {notes : List (Note α)}
    (run : Run (start name config) labels notes s) :
    (s.counters.received + (total Caller.queued s.callers).toUInt64).toNat ≤ receiveCount labels ∧
      ((∀ c ∈ s.callers, c.queued = 0) → s.counters.received.toNat ≤ receiveCount labels) := by
  obtain ⟨k, covered⟩ := run.covered
  have shown : k.toUInt64.toNat ≤ receiveCount labels :=
    Nat.le_trans (Nat.mod_le k (2 ^ 64)) (Nat.le_trans (Nat.le_add_right ..) covered.begun)
  rw [covered.received]
  refine ⟨shown, fun counted => ?_⟩
  have received : s.counters.received + 0 = k.toUInt64 := by
    rw [← covered.received, total_eq_zero counted]
    rfl
  rw [← received, UInt64.add_zero] at shown
  exact shown

/-- A record is queued behind the final drain, and the worker discards it before its producer has
counted it. -/
def earlySweep : List (Label Nat) :=
  [.begins (.receive 1), .caller 0 false, .begins (.shutdown (Duration.ofSecs 1)),
    .caller 1 false] ++ List.replicate 3 (.worker false) ++ [.caller 0 false] ++
    List.replicate 3 (.worker false)

/-- Between queueing and counting the counter of received records may have wrapped around. -/
theorem received_wraps :
    ∃ (s : Batch Nat) (notes : List (Note Nat)),
      Run (start "logs" (smallest .dropNewest)) earlySweep notes s ∧
      receiveCount earlySweep = 1 ∧ s.counters.received = 0 - 1 := by
  obtain ⟨s, notes, run, wrapped⟩ := exists_run (start "logs" (smallest .dropNewest)) earlySweep
    (fun s _ => s.counters.received == 0 - 1) (by decide +kernel)
  exact ⟨s, notes, run, rfl, eq_of_beq wrapped⟩

end Telemetry.Batch
