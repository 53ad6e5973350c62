import Telemetry.Proofs.Batch.Solo
import Telemetry.Proofs.Batch.Termination

set_option autoImplicit false

/-! # What one caller finds

With one caller there is at most one request to flush without an answer, and the caller waits for
it; a request to shut down is answered before the caller comes back. So whenever a flush or a
shutdown has returned, the worker has sent everything that was received and has counted it. -/

namespace Telemetry.Batch

variable {α : Type}

/-! ## Requests -/

/-- A call that has found the processor open. -/
def Caller.entered : Caller α → Bool
  | .offering _ | .evicting _ | .overflowing _ _ | .warning _ _ | .discarding _ _ => true
  | .counting | .checkingDrain | .sweeping _ | .measuring | .signaling | .notifying => true
  | .requestingFlush _ | .awaitingFlush _ _ _ => true
  | _ => false

/-- A call that has requested a shutdown. -/
def Caller.ends : Caller α → Bool
  | .awaitingShutdown _ _ _ | .claiming _ _ | .joining _ _ | .leaving _ _ => true
  | _ => false

/-- A call that is still without the answer to its shutdown. -/
def Caller.awaitsEnd : Caller α → Bool
  | .closing _ _ | .awaitingShutdown _ _ _ => true
  | _ => false

@[simp] theorem Caller.entered_notify (c : Caller α) : c.notify.entered = c.entered := by
  cases c <;> rfl

@[simp] theorem Caller.ends_notify (c : Caller α) : c.notify.ends = c.ends := by
  cases c <;> rfl

@[simp] theorem Caller.awaitsEnd_notify (c : Caller α) : c.notify.awaitsEnd = c.awaitsEnd := by
  cases c <;> rfl

/-- The requests, as far as the latest call knows of them. -/
structure Orders (s : Batch α) (c : Caller α) : Prop where
  entered : c.entered = true → s.control.shutdownRequested = false
  requested : c.ends = true → s.control.shutdownRequested = true
  /-- Nobody comes back from a shutdown without an answer. -/
  concluded : s.control.shutdownRequested = true → c.awaitsEnd = false →
    s.worker.concluded = true
  /-- A request without an answer is the one that the call waits for. -/
  awaited : ∀ number, c.number? = some number → number = s.control.flushRequested
  answered : c.number? = none → s.control.flushRequested = s.control.flushCompleted
  pending : s.control.flushRequested ≤ s.control.flushCompleted + 1
  task : ∀ number, s.worker.task? = some (.flush number) → number = s.control.flushCompleted + 1

theorem Orders.blank (name : String) (config : BatchConfig) :
    Orders (start name config : Batch α) (.done none) where
  entered := nofun
  requested := nofun
  concluded := nofun
  awaited := nofun
  answered := fun _ => rfl
  pending := Nat.le_succ 0
  task := nofun

theorem Operation.place_orders (op : Operation α) :
    op.place.entered = false ∧ op.place.ends = false ∧ op.place.number? = none := by
  cases op <;> exact ⟨rfl, rfl, rfl⟩

theorem Orders.begins {s : Batch α} {r : Option ProcessorResult} (h : Orders s (.done r))
    (op : Operation α) (callers : List (Caller α)) :
    Orders { s with callers := callers } op.place := by
  obtain ⟨entered, ends, awaited⟩ := op.place_orders
  constructor
  case entered => exact fun now => absurd (entered.symm.trans now) nofun
  case requested => exact fun now => absurd (ends.symm.trans now) nofun
  case concluded => exact fun requested _ => h.concluded requested rfl
  case awaited => exact fun number now => absurd (awaited.symm.trans now) nofun
  case answered => exact fun _ => h.answered rfl
  case pending => exact h.pending
  case task => exact h.task

/-- A call gets in only while the processor is open. -/
theorem Caller.Moves.entered {s t : Batch α} {c c' : Caller α} {notes : List (Note α)}
    (h : c.Moves s t c' notes) (now : c'.entered = true) :
    t.control.shutdownRequested = s.control.shutdownRequested ∧
      (c.entered = true ∨ s.isShutdown = false) := by
  cases h with
  | enters running | flushes running => exact ⟨rfl, .inr running⟩
  | sweeps hw | endsSweep hw => rw [hw.frame]; exact ⟨rfl, .inl rfl⟩
  | closesAgain _ look | closes _ look | looksAtShutdown look => cases look <;> cases now
  | queues | losesNewest | makesRoom | evicts | retries | countsOverflow | warns |
    discardsOldest | discardsNewest | countsReceived | beginsSweep | needsNoSweep | findsBatch |
    signals | requestsFlush | looksAtFlush => exact ⟨rfl, .inl rfl⟩
  | _ => cases now

theorem Caller.Moves.ends {s t : Batch α} {c c' : Caller α} {notes : List (Note α)}
    (h : c.Moves s t c' notes) (now : c'.ends = true) :
    t.control.shutdownRequested = true ∨
      (t.control.shutdownRequested = s.control.shutdownRequested ∧ c.ends = true) := by
  cases h with
  | closesAgain requested => exact .inl requested
  | closes => exact .inl rfl
  | looksAtShutdown | claims | claimsAgain | joins => exact .inr ⟨rfl, rfl⟩
  | requestsFlush _ look | looksAtFlush look => cases look <;> cases now
  | _ => cases now

/-- A call that shuts down waits until there is an answer. -/
theorem Caller.Moves.awaitsEnd {s t : Batch α} {c c' : Caller α} {notes : List (Note α)}
    (h : c.Moves s t c' notes) (calm : c'.spoils = false) (ended : c'.awaitsEnd = false) :
    s.control.shutdownResult.isSome = true ∨
      (t.control.shutdownRequested = s.control.shutdownRequested ∧ c.awaitsEnd = false) := by
  have looks {limit : Duration} {implied : Bool} {notes : List (Note α)}
      (look : LooksAtShutdown s limit implied c' notes) :
      s.control.shutdownResult.isSome = true := by
    cases look with
    | answered answer => rw [answer]; rfl
    | expired => cases calm
    | waits => cases ended
  cases h with
  | closesAgain _ look | closes _ look | looksAtShutdown look => exact .inl (looks look)
  | sweeps hw | endsSweep hw => rw [hw.frame]; exact .inr ⟨rfl, rfl⟩
  | drops => cases ended
  | _ => exact .inr ⟨rfl, rfl⟩

/-- A caller's step registers a request to flush, or looks for the answer to its own one. -/
theorem Caller.Moves.awaited {s t : Batch α} {c c' : Caller α} {notes : List (Note α)}
    (h : c.Moves s t c' notes) (numbered : Numbered s) (calm : c'.spoils = false) :
    (c'.number? = c.number? ∧ t.control.flushRequested = s.control.flushRequested) ∨
      (c.number? = none ∧ t.control.flushRequested = s.control.flushRequested + 1 ∧
        c'.number? = some (s.control.flushRequested + 1)) ∨
      (∃ number, c.number? = some number ∧ c'.number? = none ∧
        t.control.flushRequested = s.control.flushRequested ∧
        number ≤ s.control.flushCompleted) := by
  cases h with
  | requestsFlush _ look =>
      refine .inr (.inl ⟨rfl, rfl, ?_⟩)
      cases look with
      | answered now => exact absurd numbered.answered (Nat.not_le.2 now)
      | expired => cases calm
      | waits => rfl
  | looksAtFlush look =>
      cases look with
      | answered now => exact .inr (.inr ⟨_, rfl, rfl, rfl, now⟩)
      | expired => cases calm
      | waits => exact .inl ⟨rfl, rfl⟩
  | sweeps hw | endsSweep hw => rw [hw.frame]; exact .inl ⟨rfl, rfl⟩
  | closesAgain _ look | closes _ look | looksAtShutdown look =>
      cases look <;> exact .inl ⟨rfl, rfl⟩
  | _ => exact .inl ⟨rfl, rfl⟩

theorem Orders.caller {s t : Batch α} {c c' : Caller α} {new : List (Note α)} (h : Orders s c)
    (sound : Sound s) (hm : c.Moves s t c' new) (calm : c'.spoils = false)
    (callers : List (Caller α)) : Orders { t with callers := callers } c' := by
  obtain ⟨completed, -, -⟩ := hm.flushControl
  constructor
  case entered =>
    intro now
    show t.control.shutdownRequested = false
    obtain ⟨same, before | running⟩ := hm.entered now
    · exact same.trans (h.entered before)
    · exact same.trans (sound.shutsDown.flags.symm.trans running)
  case requested =>
    intro now
    rcases hm.ends now with requested | ⟨same, before⟩
    · exact requested
    · exact same.trans (h.requested before)
  case concluded =>
    -- The answer is written when the worker is done, so a call that has seen it knows of that.
    intro requested ended
    show t.worker.concluded = true
    rw [hm.worker_eq Worker.concluded Worker.concluded_woken]
    rcases hm.awaitsEnd calm ended with answer | ⟨same, before⟩
    · exact sound.concluded.answered.symm.trans answer
    · exact h.concluded (same.symm.trans requested) before
  case awaited =>
    intro number now
    show number = t.control.flushRequested
    rcases hm.awaited sound.numbered calm with ⟨same, requested⟩ | ⟨-, requested, waits⟩ |
      ⟨_, -, none, -⟩
    · rw [requested]
      exact h.awaited number (same.symm.trans now)
    · rw [requested]
      exact Option.some.inj (now.symm.trans waits)
    · exact absurd (none.symm.trans now) nofun
  case answered =>
    intro none
    show t.control.flushRequested = t.control.flushCompleted
    rw [completed]
    rcases hm.awaited sound.numbered calm with ⟨same, requested⟩ | ⟨-, -, waits⟩ |
      ⟨number, before, -, requested, answered⟩
    · rw [requested]
      exact h.answered (same.symm.trans none)
    · exact absurd (waits.symm.trans none) nofun
    · rw [requested]
      have own := h.awaited number before
      exact Nat.le_antisymm (own ▸ answered) sound.numbered.answered
  case pending =>
    -- A new request is made only when the one before has its answer.
    show t.control.flushRequested ≤ t.control.flushCompleted + 1
    rw [completed]
    rcases hm.awaited sound.numbered calm with ⟨-, requested⟩ | ⟨before, requested, -⟩ |
      ⟨_, -, -, requested, -⟩
    · exact requested ▸ h.pending
    · rw [requested, h.answered before]
    · exact requested ▸ h.pending
  case task =>
    intro number task
    show number = t.control.flushCompleted + 1
    rw [completed]
    exact h.task number ((hm.worker_eq Worker.task? Worker.task?_woken).symm.trans task)

/-- The worker itself requests a shutdown only in a panic. -/
theorem Worker.Moves.keeps_open {s t : Batch α} {w w' : Worker α} {notes : List (Note α)}
    (h : w.Moves s t w' notes) (hw' : w'.Healthy) :
    t.isShutdown = s.isShutdown ∧ t.control.shutdownRequested = s.control.shutdownRequested := by
  cases h with
  | sweeps hs | endsSweep hs | unwindSweeps hs | endsUnwindSweep hs =>
      rw [hs.frame]
      exact ⟨rfl, rfl⟩
  | unwinds => exact hw'.elim
  | _ => exact ⟨rfl, rfl⟩

/-- The worker answers the request that it is at, or all requests at the end. -/
theorem Worker.Moves.flushCompleted {s t : Batch α} {w w' : Worker α} {notes : List (Note α)}
    (h : w.Moves s t w' notes) (hw' : w'.Healthy) :
    t.control.flushCompleted = s.control.flushCompleted ∨
      (w'.task? = none ∧ (w.task? = some (.flush t.control.flushCompleted) ∨
        t.control.flushCompleted = s.control.flushRequested)) := by
  cases h with
  | sweeps hs | endsSweep hs | unwindSweeps hs | endsUnwindSweep hs => rw [hs.frame]; exact .inl rfl
  | publishes => exact .inr ⟨rfl, .inl rfl⟩
  | concludes => exact .inr ⟨rfl, .inr rfl⟩
  | unwinds => exact hw'.elim
  | _ => exact .inl rfl

theorem Orders.notify {s : Batch α} {c : Caller α} (h : Orders s c) : Orders s c.notify where
  entered := by rw [Caller.entered_notify]; exact h.entered
  requested := by rw [Caller.ends_notify]; exact h.requested
  concluded := by rw [Caller.awaitsEnd_notify]; exact h.concluded
  awaited := by rw [Caller.number?_notify]; exact h.awaited
  answered := by rw [Caller.number?_notify]; exact h.answered
  pending := h.pending
  task := h.task

theorem Orders.worker {s t : Batch α} {c : Caller α} {w : Worker α} {new : List (Note α)}
    (h : Orders s c) (sound : Sound s) (hm : s.worker.Moves s t w new) (healthy : w.Healthy) :
    Orders { t with worker := w } c := by
  obtain ⟨-, same⟩ := hm.keeps_open healthy
  have requested := hm.flushControl.1
  have completed := hm.flushCompleted healthy
  have pending := h.pending
  have numbered := sound.numbered
  -- An answer is the one to the request that is pending.
  have answers : t.control.flushCompleted = s.control.flushCompleted ∨
      (w.task? = none ∧ t.control.flushCompleted = s.control.flushRequested) := by
    rcases completed with same | ⟨ended, task | all⟩
    · exact .inl same
    · have number := h.task _ task
      have served := numbered.served _ task
      exact .inr ⟨ended, by omega⟩
    · exact .inr ⟨ended, all⟩
  constructor
  case entered => exact fun now => same.trans (h.entered now)
  case requested => exact fun now => same.trans (h.requested now)
  case concluded =>
    exact fun now ended => hm.concluded_stays (h.concluded (same.symm.trans now) ended)
  case awaited =>
    intro number now
    exact (h.awaited number now).trans requested.symm
  case answered =>
    intro none
    show t.control.flushRequested = t.control.flushCompleted
    rw [requested]
    rcases answers with same | ⟨-, all⟩
    · exact (h.answered none).trans same.symm
    · exact all.symm
  case pending =>
    show t.control.flushRequested ≤ t.control.flushCompleted + 1
    rw [requested]
    rcases answers with same | ⟨-, all⟩ <;> omega
  case task =>
    intro number task
    show number = t.control.flushCompleted + 1
    rcases answers with same | ⟨ended, -⟩
    · rw [same]
      rcases hm.task_number task with before | ⟨now, unanswered⟩
      · exact h.task number before
      · omega
    · exact absurd (ended.symm.trans task) nofun

end Telemetry.Batch
