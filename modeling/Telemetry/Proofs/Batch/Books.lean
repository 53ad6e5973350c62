import Telemetry.Proofs.Batch.Keeping

set_option autoImplicit false

/-! # A batch processor keeps its ledger

In a run with one caller, the records that the exporter was given, those on their way to it and
the one that the caller still brings are the records of the ledger; the exporter was flushed as
often as requests to flush were answered. A pass for a flush takes everything that is queued, since
nobody adds to the queue meanwhile. So when a flush or a shutdown returns, nothing is on its way any
more, and what the exporter has and what the counters say is what the ledger says. -/

namespace Telemetry.Batch

variable {α : Type}

/-! ## Places -/

/-- The record that a call still brings into the queue. -/
def Caller.brings (late : Bool) : Caller α → List α
  | .receiving a => if late then [] else [a]
  | .offering a | .evicting a => [a]
  | .overflowing _ (some a) | .warning _ (some a) | .discarding _ (some a) => [a]
  | _ => []

/-- The call is still to register a request to flush. -/
def Caller.asks (late : Bool) : Caller α → Bool
  | .flushing _ => !late
  | .requestingFlush _ => true
  | _ => false

/-- The call has come back with a result, or will find one. -/
def Caller.settles (completed : Nat) : Caller α → Bool
  | .done (some _) => true
  | .awaitingFlush number _ _ => number ≤ completed
  | _ => false

/-- The worker has flushed the exporter and still has to say so. -/
def Worker.flushes : Worker α → Bool
  | .flushing _ _ _ | .publishing _ _ => true
  | _ => false

/-- Everything that was queued has been sent and counted. -/
structure Settled (s : Batch α) : Prop where
  queue : s.queue.items = []
  hand : s.worker.hand = []
  counted : s.worker.unexported = 0

@[simp] theorem Caller.brings_notify (late : Bool) (c : Caller α) :
    c.notify.brings late = c.brings late := by
  cases c <;> rfl

@[simp] theorem Caller.asks_notify (late : Bool) (c : Caller α) :
    c.notify.asks late = c.asks late := by
  cases c <;> rfl

@[simp] theorem Caller.settles_notify (completed : Nat) (c : Caller α) :
    c.notify.settles completed = c.settles completed := by
  cases c <;> rfl

@[simp] theorem Worker.flushes_woken (w : Worker α) : w.woken.flushes = w.flushes := by
  cases w <;> rfl

/-! ## Records on their way -/

theorem Sweep.Moves.empty {s t : Batch α} {w : Sweep} {next : Option Sweep}
    {notes : List (Note α)} (h : w.Moves s t next notes) (empty : s.queue.items = []) :
    t.queue.items = [] :=
  Queue.items_eq_nil_of_length_le empty h.length_le

/-- The worker moves records from the queue through its hand to the exporter; behind the final
drain there are none. -/
theorem Worker.Moves.flow {s t : Batch α} {w w' : Worker α} {notes : List (Note α)}
    (h : w.Moves s t w' notes) (healthy : w.Healthy)
    (drained : w.drained = true → s.queue.items = []) :
    delivered (calls notes) ++ (w'.hand ++ t.queue.items) = w.hand ++ s.queue.items := by
  cases h with
  | @collects p batch a rest _ items =>
      show [] ++ ((batch ++ [a]) ++ rest) = batch ++ s.queue.items
      simp [items]
  | @sends p batch =>
      show delivered [.send batch] ++ ([] ++ s.queue.items) = batch ++ s.queue.items
      simp [delivered, batches, Request.batch?]
  | sweeps hs =>
      rw [hs.silent.1, hs.empty (drained rfl), drained rfl]
      rfl
  | endsSweep hs =>
      rw [calls_append, hs.silent.1, hs.empty (drained rfl), drained rfl]
      rfl
  | unwindSweeps | endsUnwindSweep => exact healthy.elim
  | _ => rfl

/-- Nothing on its way stays nothing on its way, whatever the worker does. -/
theorem Worker.Moves.settled {s t : Batch α} {w : Worker α} {notes : List (Note α)}
    (h : s.worker.Moves s t w notes) (settled : Settled s) :
    Settled { t with worker := w } := by
  obtain ⟨queue, hand, counted⟩ := settled
  have shorter := h.length_le
  generalize s.worker = place at h hand counted
  constructor
  case queue => exact Queue.items_eq_nil_of_length_le queue shorter
  case hand =>
    cases h with
    | collects _ items => exact absurd (queue.symm.trans items) nofun
    | _ => rfl
  case counted =>
    cases h with
    | sends nonempty => exact absurd hand nonempty
    | sent => exact counted
    | _ => rfl

/-- A caller's step adds nothing to the queue but the record that the call brings. -/
theorem Caller.Moves.flow {s t : Batch α} {c c' : Caller α} {notes : List (Note α)}
    (h : c.Moves s t c' notes) (calm : c'.spoils = false) (still : c.sweeps = false) :
    t.queue.items ++ c'.brings t.isShutdown = s.queue.items ++ c.brings s.isShutdown := by
  cases h with
  | comesLate late => simp [Caller.brings, late]
  | enters running => simp [Caller.brings, running]
  | queues => simp [Caller.brings]
  | losesNewest | evicts => cases calm
  | sweeps | endsSweep => cases still
  | @countsOverflow lost next | @warns lost next => cases next <;> rfl
  | requestsFlush _ look | looksAtFlush look => cases look <;> rfl
  | closesAgain _ look | closes _ look | looksAtShutdown look => cases look <;> rfl
  | _ => rfl

/-! ## What is known of the worker -/

/-- What the worker has taken up for the latest call, and what it leaves to the next one. -/
structure Clears (s : Batch α) (c : Caller α) : Prop where
  orders : Orders s c
  /-- A pass for a flush reaches to the end of the queue. -/
  pass : ∀ number left, s.worker.task? = some (.flush number) → s.worker.left? = some left →
    s.queue.length ≤ left
  drained : s.worker.drained = true → s.queue.items = []
  settled : c.settles s.control.flushCompleted = true → Settled s

theorem Clears.blank (name : String) (config : BatchConfig) :
    Clears (start name config : Batch α) (.done none) where
  orders := .blank name config
  pass := nofun
  drained := nofun
  settled := nofun

theorem Clears.begins {s : Batch α} {r : Option ProcessorResult} (h : Clears s (.done r))
    (op : Operation α) (callers : List (Caller α)) :
    Clears { s with callers := callers } op.place where
  orders := h.orders.begins op callers
  pass := h.pass
  drained := h.drained
  settled := by
    intro settles
    cases op <;> cases settles

/-- A worker that has answered the shutdown has nothing on its way. -/
theorem Worker.settled_of_concluded {w : Worker α} (h : w.concluded = true)
    (healthy : w.Healthy) : w.drained = true ∧ w.hand = [] ∧ w.unexported = 0 := by
  cases w with
  | announcingEnd | reporting => exact ⟨rfl, rfl, rfl⟩
  | stopped panicked =>
      cases panicked with
      | false => exact ⟨rfl, rfl, rfl⟩
      | true => exact healthy.elim
  | unwindSealing | unwindSweeping | unwindAnnouncing => exact healthy.elim
  | _ => cases h

theorem Clears.settled_of_requested {s : Batch α} {c : Caller α} (h : Clears s c)
    (healthy : s.worker.Healthy) (requested : s.control.shutdownRequested = true)
    (ended : c.awaitsEnd = false) : Settled s := by
  obtain ⟨drained, hand, counted⟩ :=
    Worker.settled_of_concluded (h.orders.concluded requested ended) healthy
  exact ⟨h.drained drained, hand, counted⟩

/-- A call comes back with a result when its request is answered or the processor was shut down. -/
theorem Caller.Moves.settles {s t : Batch α} {c c' : Caller α} {notes : List (Note α)}
    (h : c.Moves s t c' notes) (numbered : Numbered s) (calm : c'.spoils = false)
    (settles : c'.settles s.control.flushCompleted = true) :
    c.settles s.control.flushCompleted = true ∨
      (c.awaitsEnd = false ∧ (s.isShutdown = true ∨ s.control.shutdownRequested = true ∨
        c.ends = true)) := by
  cases h with
  | flushesLate late => exact .inr ⟨rfl, .inl late⟩
  | flushRefused late => exact .inr ⟨rfl, .inr (.inl late)⟩
  | leaves => exact .inr ⟨rfl, .inr (.inr rfl)⟩
  | requestsFlush _ look =>
      cases look with
      | answered now => exact absurd numbered.answered (Nat.not_le.2 now)
      | expired => cases calm
      | waits unanswered =>
          simp only [Caller.settles, decide_eq_true_eq] at settles
          omega
  | looksAtFlush look =>
      cases look with
      | answered now => exact .inl (decide_eq_true now)
      | expired => cases calm
      | waits unanswered => exact .inl settles
  | closesAgain _ look | closes _ look | looksAtShutdown look => cases look <;> cases settles
  | _ => cases settles

theorem Caller.Moves.eq_offering {s t : Batch α} {c : Caller α} {notes : List (Note α)}
    (h : c.Moves s t .counting notes) : ∃ a, c = .offering a := by
  cases h with
  | @queues a => exact ⟨a, rfl⟩
  | requestsFlush _ look | looksAtFlush look => cases look
  | closesAgain _ look | closes _ look | looksAtShutdown look => cases look

theorem Clears.caller {s t : Batch α} {c c' : Caller α} {new : List (Note α)} (h : Clears s c)
    (sound : Sound s) (hm : c.Moves s t c' new) (calm : c'.spoils = false)
    (callers : List (Caller α)) : Clears { t with callers := callers } c' := by
  have task := hm.worker_eq Worker.task? Worker.task?_woken
  have left := hm.worker_eq Worker.left? Worker.left?_woken
  have drained := hm.worker_eq Worker.drained Worker.drained_woken
  have hand := hm.worker_eq Worker.hand Worker.hand_woken
  have unexported := hm.worker_eq Worker.unexported Worker.unexported_woken
  have completed := hm.flushControl.1
  -- A call that adds to the queue has no pending request, and the processor is open.
  have grows : t.queue.length ≤ s.queue.length ∨
      (c.number? = none ∧ s.control.shutdownRequested = false ∧
        c'.settles s.control.flushCompleted = false) := by
    rcases hm.length_le with shorter | ⟨-, rfl⟩
    · exact .inl shorter
    · obtain ⟨a, rfl⟩ := hm.eq_offering
      exact .inr ⟨rfl, h.orders.entered rfl, rfl⟩
  constructor
  case orders => exact h.orders.caller sound hm calm callers
  case pass =>
    intro number n hn hl
    -- While a flush is under way its caller waits, so nobody adds to the queue.
    have served := sound.numbered.served number (task.symm.trans hn)
    have own := h.orders.task number (task.symm.trans hn)
    rcases grows with shorter | ⟨none, -⟩
    · exact Nat.le_trans shorter (h.pass number n (task.symm.trans hn) (left.symm.trans hl))
    · have answered := h.orders.answered none
      omega
  case drained =>
    intro now
    have before := drained.symm.trans now
    rcases grows with shorter | ⟨-, running, -⟩
    · exact Queue.items_eq_nil_of_length_le (h.drained before) shorter
    · exact absurd (running.symm.trans (sound.shutsDown.drained before)) nofun
  case settled =>
    intro settles
    rw [show ({ t with callers := callers } : Batch α).control.flushCompleted =
      s.control.flushCompleted from completed] at settles
    have before : Settled s := by
      rcases hm.settles sound.numbered calm settles with before | ⟨ended, late⟩
      · exact h.settled before
      · have requested : s.control.shutdownRequested = true := by
          rcases late with flag | requested | ends
          · exact sound.shutsDown.flags.symm.trans flag
          · exact requested
          · exact h.orders.requested ends
        exact h.settled_of_requested sound.healthy.worker requested ended
    rcases grows with shorter | ⟨-, -, apart⟩
    · exact ⟨Queue.items_eq_nil_of_length_le before.queue shorter, hand.trans before.hand,
        unexported.trans before.counted⟩
    · exact absurd (apart.symm.trans settles) nofun

/-- The worker flushes the exporter when the pass for the flush has reached the end of the queue. -/
theorem Worker.Moves.pass {s t : Batch α} {w w' : Worker α} {new : List (Note α)}
    (h : w.Moves s t w' new) (passes : Passes w)
    (pass : ∀ number left, w.task? = some (.flush number) → w.left? = some left →
      s.queue.length ≤ left) {number left : Nat} (task : w'.task? = some (.flush number))
    (now : w'.left? = some left) : t.queue.length ≤ left := by
  cases h with
  | measures => exact Nat.le_of_eq (Option.some.inj now)
  | @collects p batch a rest room items =>
      have one := Queue.length_of_cons items
      show rest.length ≤ left
      cases bound : p.remaining with
      | none => rw [Worker.left?, bound] at now; cases now
      | some n =>
          have before := pass number (n - batch.length) task (by rw [Worker.left?, bound]; rfl)
          rw [Worker.left?, bound, List.length_append] at now
          obtain rfl : n - (batch.length + 1) = left := Option.some.inj now
          omega
  | @endsFlush p number limit errand isOver =>
      rcases isOver with full | empty
      · -- A batch may have a record, so nothing is left for the pass.
        have size := maxBatchSize_pos s.config
        cases bound : p.remaining with
        | none =>
            have final := (passes.bound p rfl).1 bound
            rw [errand] at final
            cases final
        | some n =>
            rw [Pass.limit, bound] at full
            have none : n = 0 := by
              have small : min n s.config.maxBatchSize.toNat ≤ 0 := full
              omega
            have before := pass number n (by rw [Worker.task?, errand]; rfl)
              (by rw [Worker.left?, bound]; rfl)
            omega
      · rw [Queue.length_of_nil empty]
        exact Nat.zero_le _
  | @countsBatch p size =>
      refine pass number left task ?_
      rw [← now]
      simp [Worker.left?, Pass.after, Function.comp_def]
  | @reportsFailure p size e =>
      refine pass number left task ?_
      rw [← now]
      simp [Worker.left?, Pass.after, Function.comp_def]
  | sends | sent | notSent | countsExported | countsFailure | countsFailed | flushed =>
      exact pass number left task now
  | beginsDrain | beginsFlush | beginsRoutine | rearms => cases now
  | _ => cases task

/-- The worker answers a request to flush only when nothing is on its way. -/
theorem Clears.settled_of_answer {s t : Batch α} {c : Caller α} {w : Worker α}
    {new : List (Note α)} (h : Clears s c) (hm : s.worker.Moves s t w new) (healthy : w.Healthy)
    (answers : t.control.flushCompleted ≠ s.control.flushCompleted) : Settled s := by
  rcases hm.flushControl with ⟨-, ⟨same, -⟩ | ⟨r, hw⟩ | ⟨r, closed, hw, -⟩ | ⟨-, ends, -⟩⟩
  · exact absurd same answers
  · have empty := h.pass _ 0 (by rw [hw]; rfl) (by rw [hw]; rfl)
    exact ⟨List.eq_nil_of_length_eq_zero (Nat.le_zero.1 empty), by rw [hw]; rfl, by rw [hw]; rfl⟩
  · exact ⟨h.drained (by rw [hw]; rfl), by rw [hw]; rfl, by rw [hw]; rfl⟩
  · have unwinds := Worker.unwinds_of_terminated ends
    exact absurd (healthy.not_unwinds.symm.trans unwinds) nofun

theorem Clears.worker {s t : Batch α} {c : Caller α} {w : Worker α} {new : List (Note α)}
    (h : Clears s c) (sound : Sound s) (hm : s.worker.Moves s t w new) (healthy : w.Healthy) :
    Clears { t with worker := w } c := by
  constructor
  case orders => exact h.orders.worker sound hm healthy
  case pass => exact fun number left task now => hm.pass sound.passes h.pass task now
  case drained =>
    intro now
    rcases hm.drained_only now with before | ⟨p, limit, hw, -, errand, isOver, rfl, -⟩
    · exact Queue.items_eq_nil_of_length_le (h.drained before) hm.length_le
    · refine isOver.empty ((sound.passes.bound p ?_).2 ?_)
      · rw [hw]
        rfl
      · rw [errand]
        rfl
  case settled =>
    intro settles
    by_cases same : t.control.flushCompleted = s.control.flushCompleted
    · refine hm.settled (h.settled ?_)
      rw [← same]
      exact settles
    · exact hm.settled (h.settled_of_answer hm healthy same)

theorem Clears.notify {s : Batch α} {c : Caller α} (h : Clears s c) : Clears s c.notify where
  orders := h.orders.notify
  pass := h.pass
  drained := h.drained
  settled := by
    rw [Caller.settles_notify]
    exact h.settled

/-! ## The ledger -/

/-- What the state of the processor and the calls on the exporter say of the ledger. -/
structure Books (ops : List (Operation α)) (notes : List (Note α)) (s : Batch α)
    (c : Caller α) : Prop where
  clears : Clears s c
  closed : (Ledger.of ops).closed = (s.control.shutdownRequested || c.closes)
  flushes : (Ledger.of ops).flushes = s.control.flushRequested + (c.asks s.isShutdown).toNat
  flushed : tally .flush (calls notes) = s.control.flushCompleted + s.worker.flushes.toNat
  records : delivered (calls notes) ++
    (s.worker.hand ++ (s.queue.items ++ c.brings s.isShutdown)) = (Ledger.of ops).records

theorem Books.blank (name : String) (config : BatchConfig) :
    Books [] [] (start name config : Batch α) (.done none) where
  clears := .blank name config
  closed := rfl
  flushes := rfl
  flushed := rfl
  records := rfl

theorem Books.begins {ops : List (Operation α)} {notes : List (Note α)} {s : Batch α}
    {r : Option ProcessorResult} (h : Books ops notes s (.done r)) (sound : Sound s)
    (op : Operation α) (kept : op ≠ .drop) (callers : List (Caller α)) :
    Books (ops ++ [op]) notes { s with callers := callers } op.place := by
  obtain ⟨clears, closed, flushes, flushed, records⟩ := h
  have late : (Ledger.of ops).closed = s.isShutdown := by
    rw [closed, sound.shutsDown.flags]
    exact Bool.or_false _
  constructor
  case clears => exact clears.begins op callers
  case closed =>
    rw [Ledger.of_append_singleton]
    have same : (Ledger.of ops).closed = s.control.shutdownRequested :=
      closed.trans (Bool.or_false _)
    rw [Ledger.closed_enter, same]
    cases op <;> rfl
  case flushes =>
    rw [Ledger.of_append_singleton]
    have same : (Ledger.of ops).flushes = s.control.flushRequested := flushes
    cases op with
    | drop => exact absurd rfl kept
    | shutdown limit => exact same
    | receive a | flush limit =>
        cases flag : s.isShutdown <;>
          simp [Ledger.enter, late, flag, same, Operation.place, Caller.asks]
  case flushed => exact flushed
  case records =>
    rw [Ledger.of_append_singleton]
    have same : delivered (calls notes) ++ (s.worker.hand ++ s.queue.items) =
        (Ledger.of ops).records := by simpa [Caller.brings] using records
    cases op with
    | drop => exact absurd rfl kept
    | shutdown limit => simpa [Ledger.enter, Operation.place, Caller.brings] using same
    | receive a | flush limit =>
        cases flag : s.isShutdown <;>
          simp [Ledger.enter, late, flag, ← same, Operation.place, Caller.brings]

/-- A caller's step changes whether the processor is closed only as its call says. -/
theorem Caller.Moves.closed {s t : Batch α} {c c' : Caller α} {notes : List (Note α)}
    (h : c.Moves s t c' notes) (ends : c.ends = true → s.control.shutdownRequested = true)
    (plain : c.implied = false) :
    (t.control.shutdownRequested || c'.closes) = (s.control.shutdownRequested || c.closes) := by
  cases h with
  | sweeps hw | endsSweep hw => rw [hw.frame]; rfl
  | requestsFlush _ look | looksAtFlush look => cases look <;> rfl
  | closesAgain _ look | looksAtShutdown look => cases look <;> rfl
  | closes => exact (Bool.true_or _).trans (Bool.or_true _).symm
  | leaves => rw [ends rfl, Bool.true_or, Bool.true_or]
  | dropsAgain | drops | leavesDrop => cases plain
  | _ => rfl

/-- A call registers its request to flush once. -/
theorem Caller.Moves.asks {s t : Batch α} {c c' : Caller α} {notes : List (Note α)}
    (h : c.Moves s t c' notes)
    (entered : c.entered = true → s.control.shutdownRequested = false) :
    t.control.flushRequested + (c'.asks t.isShutdown).toNat =
      s.control.flushRequested + (c.asks s.isShutdown).toNat := by
  cases h with
  | flushesLate late => simp [Caller.asks, late]
  | flushes running => simp [Caller.asks, running]
  | flushRefused late => exact absurd ((entered rfl).symm.trans late) nofun
  | requestsFlush _ look => cases look <;> rfl
  | sweeps hw | endsSweep hw => rw [hw.frame]; rfl
  | looksAtFlush look => cases look <;> rfl
  | closesAgain _ look | closes _ look | looksAtShutdown look => cases look <;> rfl
  | _ => rfl

theorem Books.caller {ops : List (Operation α)} {notes new : List (Note α)} {s t : Batch α}
    {c c' : Caller α} (h : Books ops notes s c) (sound : Sound s) (hc : c ∈ s.callers)
    (plain : c.implied = false) (calm : c'.spoils = false) (hm : c.Moves s t c' new)
    (callers : List (Caller α)) :
    Books ops (notes ++ new) { t with callers := callers } c' := by
  obtain ⟨clears, closed, flushes, flushed, records⟩ := h
  have silent := hm.silent.1
  constructor
  case clears => exact clears.caller sound hm calm callers
  case closed => exact closed.trans (hm.closed clears.orders.requested plain).symm
  case flushes => exact flushes.trans (hm.asks clears.orders.entered).symm
  case flushed =>
    rw [calls_append, silent, List.append_nil, flushed]
    show _ = t.control.flushCompleted + t.worker.flushes.toNat
    rw [hm.flushControl.1, hm.worker_eq Worker.flushes Worker.flushes_woken]
  case records =>
    -- Nobody sweeps behind an open processor.
    have still : c.sweeps = false := by
      refine Bool.eq_false_iff.2 fun sweeps => ?_
      have isOver := sound.shutsDown.sweeping c hc sweeps
      have running := clears.orders.entered (by cases c <;> first | rfl | cases sweeps)
      exact absurd (running.symm.trans (sound.shutsDown.requested isOver)) nofun
    rw [calls_append, silent, List.append_nil, ← records]
    show _ ++ (t.worker.hand ++ (t.queue.items ++ c'.brings t.isShutdown)) = _
    rw [hm.flow calm still, hm.worker_eq Worker.hand Worker.hand_woken]

/-- The exporter is flushed for one request after the other. -/
theorem Worker.Moves.flushes {s t : Batch α} {w w' : Worker α} {notes : List (Note α)}
    (h : w.Moves s t w' notes) (hw' : w'.Healthy)
    (task : ∀ number, w.task? = some (.flush number) → number = s.control.flushCompleted + 1)
    (drained : w.drained = true → s.control.flushRequested = s.control.flushCompleted) :
    t.control.flushCompleted + w'.flushes.toNat =
      s.control.flushCompleted + w.flushes.toNat + tally .flush (calls notes) := by
  cases h with
  | sweeps hs => rw [hs.silent.1, hs.frame]; rfl
  | endsSweep hs =>
      rw [calls_append, hs.silent.1, hs.frame]
      rfl
  | publishes => rw [task _ rfl]; rfl
  | publishesNothing answered =>
      have own := task _ rfl
      omega
  | concludes => exact drained rfl
  | unwinds | unwindSweeps | endsUnwindSweep => exact hw'.elim
  | _ => rfl

theorem Books.worker {ops : List (Operation α)} {notes new : List (Note α)} {s t : Batch α}
    {c : Caller α} {w : Worker α} (h : Books ops notes s c) (sound : Sound s)
    (hm : s.worker.Moves s t w new) (healthy : w.Healthy) :
    Books ops (notes ++ new) { t with worker := w } c := by
  obtain ⟨clears, closed, flushes, flushed, records⟩ := h
  obtain ⟨flag, requested⟩ := hm.keeps_open healthy
  constructor
  case clears => exact clears.worker sound hm healthy
  case closed =>
    show _ = (t.control.shutdownRequested || c.closes)
    rw [requested, closed]
  case flushes =>
    show _ = t.control.flushRequested + (c.asks t.isShutdown).toNat
    rw [hm.flushControl.1, flag, flushes]
  case flushed =>
    rw [calls_append, tally_append, flushed]
    refine (hm.flushes healthy clears.orders.task fun drained => ?_).symm
    -- Behind the final drain nobody waits for a flush.
    refine clears.orders.answered ?_
    cases waits : c.number? with
    | none => rfl
    | some number =>
        have running := clears.orders.entered (by cases c <;> first | rfl | cases waits)
        exact absurd (running.symm.trans (sound.shutsDown.drained drained)) nofun
  case records =>
    have flow := congrArg (· ++ c.brings s.isShutdown)
      (hm.flow sound.healthy.worker clears.drained)
    simp only [List.append_assoc] at flow
    rw [calls_append, delivered_append, ← records, List.append_assoc]
    show _ ++ (_ ++ (w.hand ++ (t.queue.items ++ c.brings t.isShutdown))) = _
    rw [flag, flow]

theorem Books.notify {ops : List (Operation α)} {notes : List (Note α)} {s : Batch α}
    {c : Caller α} (h : Books ops notes s c) : Books ops notes s c.notify where
  clears := h.clears.notify
  closed := by rw [Caller.closes_notify]; exact h.closed
  flushes := by rw [Caller.asks_notify]; exact h.flushes
  flushed := h.flushed
  records := by rw [Caller.brings_notify]; exact h.records

variable {name : String} {config : BatchConfig} {labels : List (Label α)}
  {notes : List (Note α)} {s : Batch α}

/-- A run with one caller keeps the ledger of its calls. -/
theorem Solo.books (h : Solo name config labels notes s) :
    Books (operations labels) notes s s.latest :=
  h.follows (.blank name config)
    (fun op callers sound kept books => books.begins sound op kept callers)
    (fun callers sound hc plain calm hm books => books.caller sound hc plain calm hm callers)
    (fun sound healthy hm books =>
      ⟨books.worker sound hm healthy, (books.worker sound hm healthy).notify⟩)

end Telemetry.Batch
