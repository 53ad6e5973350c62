import Telemetry.Proofs.Batch.Accounting
import Telemetry.Proofs.Batch.Answers

set_option autoImplicit false

/-! # No wake-up is lost

A worker that has fallen asleep sleeps until somebody wakes it or its timer runs out. Requests are
registered and the worker is woken in one step. A full batch is signalled by a flag outside the
lock: the producer that sets the flag wakes the worker in a later step, and a producer that finds
the flag set leaves it at that. The worker clears the flag before it reads the length of the queue.

So while the worker sleeps unnoticed and the flag is set, the producer that has set it is still
about to wake the worker. And while the flag is not set, some producer is still about to look at
the length of the queue, or the worker is about to look, or less than a full batch has come since
the worker has looked. -/

namespace Telemetry.Batch

variable {α : Type}

/-! ## Who looks at the queue -/

/-- A producer that will see whether a batch is full, or has seen one and is about to signal it. -/
def Caller.watches : Caller α → Bool
  | .counting | .checkingDrain | .sweeping _ | .measuring | .signaling => true
  | _ => false

/-- The worker will look at the whole queue, or will never sleep again. -/
def Worker.looks : Worker α → Bool
  | .rearming _ | .measuring _ | .unwinding => true
  | .collecting p _ | .sending p _ | .countingExported p _ | .countingBatch p _ =>
    p.remaining.isNone
  | .countingFailure p _ _ | .countingFailed p _ _ | .naming p _ _ => p.remaining.isNone
  | _ => false

/-- So many records may be queued without a signal: fewer than a batch has, and those that the
pass of the worker still counts on. -/
def Worker.tolerates (size : Nat) (w : Worker α) (queued : Nat) : Prop :=
  w.looks = true ∨ queued < w.left?.getD 0 + size

@[simp] theorem Worker.tolerates_woken (size queued : Nat) (w : Worker α) :
    w.woken.tolerates size queued ↔ w.tolerates size queued := by
  cases w <;> rfl

theorem Worker.tolerates.mono {size queued fewer : Nat} {w : Worker α}
    (h : w.tolerates size queued) (le : fewer ≤ queued) : w.tolerates size fewer :=
  h.imp_right fun lt => Nat.lt_of_le_of_lt le lt

@[simp] theorem Caller.watches_notify (c : Caller α) : c.notify.watches = c.watches := by
  cases c <;> rfl

@[simp] theorem Caller.notify_eq_notifying {c : Caller α} :
    c.notify = .notifying ↔ c = .notifying := by
  cases c <;> simp [Caller.notify]

/-! ## Steps of single threads -/

/-- While the worker sleeps and nobody has woken it, there is no request, and a signal was given
only by a producer that is about to wake the worker. -/
structure Unwoken (s : Batch α) : Prop where
  running : s.control.shutdownRequested = false
  answered : s.control.flushRequested ≤ s.control.flushCompleted
  signaled : s.exportSignaled = true → ∃ c ∈ s.callers, c = .notifying

/-- A full batch in the queue is signalled, or somebody is about to see it. -/
inductive Watched (s : Batch α) : Prop where
  | requested : s.control.shutdownRequested = true → Watched s
  | signaled : s.exportSignaled = true → Watched s
  | caller : (∃ c ∈ s.callers, c.watches = true) → Watched s
  | worker : s.worker.tolerates s.config.maxBatchSize.toNat s.queue.length → Watched s

/-- What one of the callers is like, one of them is still like if the caller that moves is. -/
theorem exists_mem_set {p : Caller α → Prop} {callers : List (Caller α)} {i : Nat}
    {c c' : Caller α} (hc : callers[i]? = some c) (kept : p c → p c')
    (h : ∃ d ∈ callers, p d) : ∃ d ∈ callers.set i c', p d := by
  obtain ⟨d, hd, hp⟩ := h
  obtain ⟨j, hj⟩ := List.mem_iff_getElem?.1 hd
  obtain ⟨lt, -⟩ := List.getElem?_eq_some_iff.1 hc
  by_cases hij : i = j
  · subst hij
    obtain rfl : c = d := Option.some.inj (hc.symm.trans hj)
    exact ⟨c', List.mem_set lt c', kept hp⟩
  · refine ⟨d, List.mem_of_getElem? (i := j) ?_, hp⟩
    rw [List.getElem?_set_ne hij, hj]

theorem exists_mem_map_notify {p : Caller α → Prop} (hp : ∀ c, p c → p c.notify)
    {callers : List (Caller α)} (h : ∃ d ∈ callers, p d) :
    ∃ d ∈ callers.map Caller.notify, p d := by
  obtain ⟨d, hd, h⟩ := h
  exact ⟨d.notify, List.mem_map_of_mem hd, hp d h⟩

/-- A caller's step behind which the worker still sleeps unnoticed: the requests are as they were,
and a signal that is given now is going to be passed on. -/
theorem Caller.Moves.unwoken {s t : Batch α} {c c' : Caller α} {notes : List (Note α)}
    (h : c.Moves s t c' notes) (sleeps : t.worker = .asleep false) :
    s.worker = .asleep false ∧ t.control = s.control ∧ (c = .notifying → c' = .notifying) ∧
      (t.exportSignaled = s.exportSignaled ∨ c' = .notifying) := by
  cases h with
  | sweeps hw | endsSweep hw =>
      rw [hw.frame] at sleeps ⊢
      exact ⟨sleeps, rfl, nofun, .inl rfl⟩
  | signals => exact ⟨sleeps, rfl, nofun, .inr rfl⟩
  | signalsAgain signaled => exact ⟨sleeps, rfl, nofun, .inl signaled.symm⟩
  | notifies | requestsFlush | closes =>
      -- These wake the worker.
      cases hw : s.worker <;> simp [registerFlush, registerShutdown, Worker.woken, hw] at sleeps
  | _ => exact ⟨sleeps, rfl, nofun, .inl rfl⟩

/-- A caller's step that makes the queue longer leaves the caller watching; a caller that watches
goes on, signals a batch, or has seen that there is none. -/
theorem Caller.Moves.watches {s t : Batch α} {c c' : Caller α} {notes : List (Note α)}
    (h : c.Moves s t c' notes) :
    c'.watches = true ∨ t.exportSignaled = true ∨
      (t.exportSignaled = s.exportSignaled ∧ t.queue.length ≤ s.queue.length ∧
        (c.watches = true → t.queue.length < s.config.maxBatchSize.toNat)) := by
  cases h with
  | queues | countsReceived | beginsSweep | needsNoSweep | sweeps | endsSweep | findsBatch |
    discardsNewest => exact .inl rfl
  | signals | signalsAgain => exact .inr (.inl rfl)
  | findsNoBatch small => exact .inr (.inr ⟨rfl, Nat.le_refl _, fun _ => small⟩)
  | evicts items => exact .inr (.inr ⟨rfl, Queue.length_rest_le items, nofun⟩)
  | _ => exact .inr (.inr ⟨rfl, Nat.le_refl _, nofun⟩)

/-- The worker falls asleep only when there is nothing to do. -/
theorem Worker.Moves.unwoken {s t : Batch α} {w w' : Worker α} {notes : List (Note α)}
    (h : w.Moves s t w' notes) (sleeps : w' = .asleep false) :
    t = s ∧ s.control.shutdownRequested = false ∧
      s.control.flushRequested ≤ s.control.flushCompleted ∧ s.exportSignaled = false := by
  cases h with
  | fallsAsleep running answered calm => exact ⟨rfl, running, answered, calm⟩
  | _ => cases sleeps

/-- The worker takes back a signal only to look at the whole queue. -/
theorem Worker.Moves.exportSignaled {s t : Batch α} {w w' : Worker α} {notes : List (Note α)}
    (h : w.Moves s t w' notes) : t.exportSignaled = s.exportSignaled ∨ w'.looks = true := by
  cases h with
  | sweeps hw | endsSweep hw | unwindSweeps hw | endsUnwindSweep hw => rw [hw.frame]; exact .inl rfl
  | rearms => exact .inr rfl
  | _ => exact .inl rfl

/-- A pass that finds its end has left less than a full batch. -/
theorem Pass.Ends.tolerated {s : Batch α} {p : Pass} (isOver : p.Ends s 0)
    (h : (Worker.collecting p [] : Worker α).tolerates s.config.maxBatchSize.toNat
      s.queue.length) : s.queue.length < s.config.maxBatchSize.toNat := by
  have size := maxBatchSize_pos s.config
  rcases isOver with full | empty
  · -- Only a pass with nothing left is that far: a batch may have a record.
    cases bound : p.remaining with
    | none =>
        rw [Pass.limit, bound] at full
        exact absurd full (Nat.not_le.2 size)
    | some n =>
        simp only [Pass.limit, bound] at full
        rcases h with looks | within
        · simp [Worker.looks, bound] at looks
        · simp only [Worker.left?, bound, Option.map_some, Option.getD_some] at within
          omega
  · rw [Queue.length_of_nil empty]
    exact size

/-- The worker keeps within what it tolerates, unless it comes to the final drain. -/
theorem Worker.Moves.tolerates {s t : Batch α} {w w' : Worker α} {notes : List (Note α)}
    (h : w.Moves s t w' notes) (hw : w.tolerates s.config.maxBatchSize.toNat s.queue.length) :
    t.control.shutdownRequested = true ∨
      w'.tolerates s.config.maxBatchSize.toNat t.queue.length := by
  have size := maxBatchSize_pos s.config
  cases h with
  | beginsDrain requested => exact .inl requested
  | unwinds => exact .inl rfl
  | beginsFlush | beginsRoutine | rearms | panics | panicsClosing => exact .inr (.inl rfl)
  | measures =>
      refine .inr (.inr ?_)
      show s.queue.length < s.queue.length + _
      omega
  | @collects p batch a rest room items =>
      refine .inr (hw.imp id fun within => ?_)
      -- The batch takes one of the records that the pass still counts on.
      cases bound : p.remaining with
      | none =>
          simp only [left?, bound, Option.map_none, Option.getD_none] at within ⊢
          exact Nat.lt_of_le_of_lt (Queue.length_rest_le items) within
      | some n =>
          simp only [Pass.limit, bound] at room
          simp only [left?, bound, Option.map_some, Option.getD_some, List.length_append,
            List.length_singleton, Queue.length_of_cons items] at within ⊢
          show rest.length < _
          omega
  | endsRoutine _ isOver | endsFlush _ isOver | endsDrain _ isOver =>
      refine .inr (.inr ?_)
      show s.queue.length < 0 + _
      rw [Nat.zero_add]
      exact Pass.Ends.tolerated isOver hw
  | sweeps hs | endsSweep hs | unwindSweeps hs | endsUnwindSweep hs =>
      exact .inr (hw.mono hs.length_le)
  | @countsBatch p size | @reportsFailure p size =>
      refine .inr (hw.imp (fun looks => ?_) fun within => ?_)
      · simpa [Worker.looks, Pass.after] using looks
      · cases bound : p.remaining <;> simpa [left?, Pass.after, bound, count] using within
  | _ => exact .inr hw

/-! ## Steps of the whole -/

theorem Unwoken.step {s u : Batch α} {label : Label α} {notes : List (Note α)}
    (h : s.worker = .asleep false → Unwoken s) (hm : s.Moves label u notes)
    (sleeps : u.worker = .asleep false) : Unwoken u := by
  cases hm with
  | begins op =>
      obtain ⟨running, answered, signaled⟩ := h sleeps
      refine ⟨running, answered, fun set => ?_⟩
      obtain ⟨c, hc, notifying⟩ := signaled set
      exact ⟨c, List.mem_append_left _ hc, notifying⟩
  | @caller i expired c c' t _ hc hm =>
      obtain ⟨before, control, goesOn, signal⟩ := hm.unwoken sleeps
      obtain ⟨running, answered, signaled⟩ := h before
      have callers := hm.frame.2.2.2
      refine ⟨control ▸ running, control ▸ answered, fun set => ?_⟩
      show ∃ d ∈ t.callers.set i c', d = .notifying
      rw [callers]
      rcases signal with same | notifying
      · exact exists_mem_set hc goesOn (signaled (same ▸ set))
      · exact ⟨c', List.mem_set (List.getElem?_eq_some_iff.1 hc).1 c', notifying⟩
  | @worker label t w _ _ _ hm =>
      obtain ⟨rfl, running, answered, calm⟩ := hm.unwoken sleeps
      exact ⟨running, answered, fun set => absurd (calm.symm.trans set) nofun⟩

theorem Watched.step {s u : Batch α} {label : Label α} {notes : List (Note α)}
    (h : Watched s) (hm : s.Moves label u notes) : Watched u := by
  cases hm with
  | begins op =>
      cases h with
      | requested requested => exact .requested requested
      | signaled set => exact .signaled set
      | caller watched =>
          obtain ⟨c, hc, watches⟩ := watched
          exact .caller ⟨c, List.mem_append_left _ hc, watches⟩
      | worker within => exact .worker within
  | @caller i expired c c' t _ hc hm =>
      have callers := hm.frame.2.2.2
      rcases hm.watches with watches | set | ⟨signal, shorter, leaves⟩
      · refine .caller ⟨c', ?_, watches⟩
        rw [callers]
        exact List.mem_set (List.getElem?_eq_some_iff.1 hc).1 c'
      · exact .signaled set
      · cases h with
        | requested requested => exact .requested (hm.stays_requested requested)
        | signaled set => exact .signaled (signal.trans set)
        | caller watched =>
            by_cases watches : c.watches = true
            · -- The queue has less than a batch, whatever the worker still counts on.
              refine .worker (.inr ?_)
              show t.queue.length < _ + t.config.maxBatchSize.toNat
              rw [hm.frame.1]
              exact Nat.lt_add_left _ (leaves watches)
            · refine .caller ?_
              show ∃ d ∈ t.callers.set i c', d.watches = true
              rw [callers]
              exact exists_mem_set hc (fun now => absurd now watches) watched
        | worker within =>
            refine .worker ?_
            show t.worker.tolerates t.config.maxBatchSize.toNat t.queue.length
            rw [hm.frame.1, hm.worker_eq (fun w => w.tolerates s.config.maxBatchSize.toNat _)
              (fun w => propext (w.tolerates_woken _ _))]
            exact within.mono shorter
  | @worker label t w _ _ _ hm =>
      cases h with
      | requested requested => exact .requested (hm.stays_requested requested)
      | signaled set =>
          rcases hm.exportSignaled with same | looks
          · exact .signaled (same.trans set)
          · exact .worker (.inl looks)
      | caller watched =>
          refine .caller ?_
          show ∃ d ∈ t.callers, d.watches = true
          obtain ⟨-, -, callers | callers⟩ := hm.frame
          · rw [callers]
            exact watched
          · rw [callers]
            exact exists_mem_map_notify (fun c watches => c.watches_notify.trans watches) watched
      | worker within =>
          rcases hm.tolerates within with requested | within
          · exact .requested requested
          · refine .worker ?_
            show w.tolerates t.config.maxBatchSize.toNat t.queue.length
            rw [hm.frame.1]
            exact within

/-! ## Runs -/

theorem Run.unwoken {name : String} {config : BatchConfig} {s : Batch α}
    {labels : List (Label α)} {notes : List (Note α)}
    (run : Run (start name config) labels notes s) (sleeps : s.worker = .asleep false) :
    Unwoken s :=
  run.preserves (p := fun s => s.worker = .asleep false → Unwoken s) Unwoken.step nofun sleeps

theorem Run.watched {name : String} {config : BatchConfig} {s : Batch α}
    {labels : List (Label α)} {notes : List (Note α)}
    (run : Run (start name config) labels notes s) : Watched s :=
  run.preserves Watched.step (.worker (.inr (Nat.add_pos_right _ (maxBatchSize_pos config))))

theorem Caller.idle_of_not_receives {c : Caller α} (h : c.receives = false) :
    c.watches = false ∧ c ≠ .notifying := by
  cases c with
  | flushing | requestingFlush | awaitingFlush | dropping | closing | awaitingShutdown | claiming |
    joining | leaving | done => exact ⟨rfl, nofun⟩
  | _ => cases h

/-- Whenever no call that brings a record is under way and the worker sleeps and was not woken, it
misses nothing: no shutdown is requested, all requests to flush have their answer, no full batch is
signalled, and the queue holds less than a full batch. -/
theorem no_lost_wakeup {name : String} {config : BatchConfig} {s : Batch α}
    {labels : List (Label α)} {notes : List (Note α)}
    (run : Run (start name config) labels notes s)
    (returned : ∀ c ∈ s.callers, c.receives = false) (sleeps : s.worker = .asleep false) :
    s.control.shutdownRequested = false ∧
      s.control.flushRequested = s.control.flushCompleted ∧ s.exportSignaled = false ∧
      s.queue.length < config.maxBatchSize.toNat := by
  obtain ⟨running, answered, signaled⟩ := run.unwoken sleeps
  have calm : s.exportSignaled = false := by
    refine Bool.eq_false_iff.2 fun set => ?_
    obtain ⟨c, hc, notifying⟩ := signaled set
    exact (Caller.idle_of_not_receives (returned c hc)).2 notifying
  refine ⟨running, Nat.le_antisymm answered run.numbered.answered, calm, ?_⟩
  cases run.watched with
  | requested requested => exact absurd (running.symm.trans requested) nofun
  | signaled set => exact absurd (calm.symm.trans set) nofun
  | caller watched =>
      obtain ⟨c, hc, watches⟩ := watched
      have idle := (Caller.idle_of_not_receives (returned c hc)).1
      exact absurd (idle.symm.trans watches) nofun
  | worker within =>
      rw [sleeps, run.config] at within
      rcases within with looks | small
      · cases looks
      · exact Nat.lt_of_lt_of_eq small (Nat.zero_add _)

/-- Whether the worker is asleep, not notified yet. -/
def Worker.isAsleep : Worker α → Bool
  | .asleep notified => !notified
  | _ => false

theorem Worker.eq_asleep {w : Worker α} (h : w.isAsleep = true) : w = .asleep false := by
  cases w with
  | asleep notified => rw [Bool.not_eq_eq_eq_not.1 h, Bool.not_true]
  | _ => cases h

/-- Two records make a batch, which wakes the worker. While the exporter has the batch, a third
record is queued; then the worker falls asleep again. -/
def oneBehind : List (Label Nat) :=
  .worker false :: .begins (.receive 1) :: List.replicate 5 (.caller 0 false) ++
    .begins (.receive 2) :: List.replicate 7 (.caller 1 false) ++
    List.replicate 7 (.worker false) ++
    .begins (.receive 3) :: List.replicate 5 (.caller 2 false) ++
    .ended (.returned (.ok ())) :: List.replicate 4 (.worker false)

theorem no_lost_wakeup_of_three :
    ∃ (s : Batch Nat) (notes : List (Note Nat)),
      Run (start "logs" pairs) oneBehind notes s ∧
      (∀ c ∈ s.callers, c.receives = false) ∧ s.worker = .asleep false ∧
      s.exportSignaled = false ∧ s.queue.items = [3] ∧ s.queue.length < 2 := by
  obtain ⟨s, notes, run, ended⟩ := exists_run (start "logs" pairs) oneBehind
    (fun s _ => s.worker.isAsleep) (by decide +kernel)
  have sleeps := Worker.eq_asleep ended
  have returned := run.test (fun s _ => s.callers.all fun c => !c.receives) (by decide +kernel)
  have queued := run.test (fun s _ => s.queue.items == [3]) (by decide +kernel)
  simp only [List.all_eq_true, Bool.not_eq_true'] at returned
  obtain ⟨-, -, calm, small⟩ := no_lost_wakeup run returned sleeps
  exact ⟨s, notes, run, returned, sleeps, calm, eq_of_beq queued, small⟩

end Telemetry.Batch
