import Telemetry.Proofs.Batch.Run

set_option autoImplicit false

/-! # How far the shutdown has come

The worker shuts down in a fixed order: shutdown is requested, the final drain empties the queue,
the end of the drain is announced by a flag, the rest is discarded, the exporter shuts down. A
panic in the exporter's name leads to the flag by another way, without a drain. The invariant
`ShutsDown` ties the flags to the places of the threads; with it a flag that a caller reads tells
how far the worker is. -/

namespace Telemetry.Batch

variable {α : Type}

/-! ## Where the worker is in the shutdown -/

/-- Whether an errand is the final drain. -/
def Errand.isFinal : Errand → Bool
  | .shutdown _ => true
  | _ => false

/-- The errand of the pass that the worker is in. -/
def Worker.errand? : Worker α → Option Errand
  | .rearming errand | .measuring errand => some errand
  | .collecting p _ | .sending p _ | .countingExported p _ | .countingBatch p _ => some p.errand
  | .countingFailure p _ _ | .countingFailed p _ _ | .naming p _ _ => some p.errand
  | _ => none

/-- The final drain is over. -/
def Worker.drained : Worker α → Bool
  | .sealing _ _ | .sweeping _ _ _ | .closing _ _ | .namingClose _ _ | .concluding _ _ => true
  | .announcingEnd | .reporting | .stopped false => true
  | _ => false

/-- A panic ends the worker. -/
def Worker.unwinds : Worker α → Bool
  | .unwinding | .unwindSealing | .unwindSweeping _ | .unwindAnnouncing | .stopped true => true
  | _ => false

/-- A panic ends the worker, and all requests have been answered. -/
def Worker.terminated : Worker α → Bool
  | .unwindSealing | .unwindSweeping _ | .unwindAnnouncing | .stopped true => true
  | _ => false

/-- The worker has announced that there will be no more drain. -/
def Worker.sealed : Worker α → Bool
  | .sweeping _ _ _ | .closing _ _ | .namingClose _ _ | .concluding _ _ => true
  | .announcingEnd | .reporting | .stopped _ | .unwindSweeping _ | .unwindAnnouncing => true
  | _ => false

/-- A caller discards what is queued. -/
def Caller.sweeps : Caller α → Bool
  | .sweeping _ => true
  | _ => false

/-- What the flags and the places of the threads say about each other. -/
structure ShutsDown (s : Batch α) : Prop where
  flags : s.isShutdown = s.control.shutdownRequested
  /-- Only a request to shut down leads to the final drain. -/
  errand : ∀ errand, s.worker.errand? = some errand → errand.isFinal = true →
    s.control.shutdownRequested = true
  drained : s.worker.drained = true → s.control.shutdownRequested = true
  terminated : s.worker.terminated = true → s.control.shutdownRequested = true
  sealed : s.worker.sealed = true → s.isDrained = true
  requested : s.isDrained = true → s.control.shutdownRequested = true
  /-- The end of the drain is announced after a drain or in a panic. -/
  isOver : s.isDrained = true → s.worker.drained = true ∨ s.worker.unwinds = true
  /-- Callers discard what is queued only after that. -/
  sweeping : ∀ c ∈ s.callers, c.sweeps = true → s.isDrained = true

theorem shutsDown_start (name : String) (config : BatchConfig) :
    ShutsDown (start name config : Batch α) where
  flags := rfl
  errand := nofun
  drained := nofun
  terminated := nofun
  sealed := nofun
  requested := nofun
  isOver := nofun
  sweeping := nofun

/-! ## Waking -/

@[simp] theorem Worker.errand?_woken (w : Worker α) : w.woken.errand? = w.errand? := by
  cases w <;> rfl

@[simp] theorem Worker.drained_woken (w : Worker α) : w.woken.drained = w.drained := by
  cases w <;> rfl

@[simp] theorem Worker.unwinds_woken (w : Worker α) : w.woken.unwinds = w.unwinds := by
  cases w <;> rfl

@[simp] theorem Worker.terminated_woken (w : Worker α) : w.woken.terminated = w.terminated := by
  cases w <;> rfl

@[simp] theorem Worker.sealed_woken (w : Worker α) : w.woken.sealed = w.sealed := by
  cases w <;> rfl

@[simp] theorem Caller.sweeps_notify (c : Caller α) : c.notify.sweeps = c.sweeps := by
  cases c <;> rfl

@[simp] theorem Caller.sweeps_place (op : Operation α) : op.place.sweeps = false := by
  cases op <;> rfl

theorem Worker.unwinds_of_terminated {w : Worker α} (h : w.terminated = true) :
    w.unwinds = true := by
  cases w with
  | unwindSealing | unwindSweeping | unwindAnnouncing => rfl
  | stopped panicked => cases panicked <;> first | rfl | cases h
  | _ => cases h

/-! ## Steps -/

/-- A caller's step may request the shutdown; it never takes a request back. -/
theorem Caller.Moves.shutdownRequested {s t : Batch α} {c c' : Caller α} {notes : List (Note α)}
    (h : c.Moves s t c' notes) :
    (t.isShutdown = s.isShutdown ∧ t.control.shutdownRequested = s.control.shutdownRequested) ∨
      (t.isShutdown = true ∧ t.control.shutdownRequested = true) := by
  cases h with
  | sweeps hw | endsSweep hw => rw [hw.frame]; exact .inl ⟨rfl, rfl⟩
  | closes => exact .inr ⟨rfl, rfl⟩
  | _ => exact .inl ⟨rfl, rfl⟩

theorem Caller.Moves.stays_requested {s t : Batch α} {c c' : Caller α} {notes : List (Note α)}
    (h : c.Moves s t c' notes) (hs : s.control.shutdownRequested = true) :
    t.control.shutdownRequested = true := by
  rcases h.shutdownRequested with ⟨-, same⟩ | ⟨-, now⟩
  · rw [same, hs]
  · exact now

/-- A caller comes to discard what is queued only if it has seen that the drain is over. -/
theorem Caller.Moves.sweeps_only {s t : Batch α} {c c' : Caller α} {notes : List (Note α)}
    (h : c.Moves s t c' notes) (hs : c'.sweeps = true) : c.sweeps = true ∨ s.isDrained = true := by
  cases h with
  | beginsSweep isOver => exact .inr isOver
  | sweeps => exact .inl rfl
  | requestsFlush _ look | looksAtFlush look => cases look <;> cases hs
  | closesAgain _ look | closes _ look | looksAtShutdown look => cases look <;> cases hs
  | _ => cases hs

theorem ShutsDown.caller {s t : Batch α} {c c' : Caller α} {i : Nat} {notes : List (Note α)}
    (h : ShutsDown s) (hc : s.callers[i]? = some c) (hm : c.Moves s t c' notes) :
    ShutsDown { t with callers := t.callers.set i c' } := by
  obtain ⟨-, -, isDrained, callers⟩ := hm.frame
  have requested := hm.stays_requested
  have errand := hm.worker_eq Worker.errand? Worker.errand?_woken
  have drained := hm.worker_eq Worker.drained Worker.drained_woken
  have unwinds := hm.worker_eq Worker.unwinds Worker.unwinds_woken
  have terminated := hm.worker_eq Worker.terminated Worker.terminated_woken
  have sealed := hm.worker_eq Worker.sealed Worker.sealed_woken
  constructor
  case flags =>
    show t.isShutdown = t.control.shutdownRequested
    rcases hm.shutdownRequested with ⟨flag, same⟩ | ⟨flag, now⟩
    · rw [flag, same, h.flags]
    · rw [flag, now]
  case errand => exact fun e he final => requested (h.errand e (errand ▸ he) final)
  case drained => exact fun hw => requested (h.drained (drained ▸ hw))
  case terminated => exact fun hw => requested (h.terminated (terminated ▸ hw))
  case sealed => exact fun hw => isDrained.trans (h.sealed (sealed ▸ hw))
  case requested => exact fun hd => requested (h.requested (isDrained ▸ hd))
  case isOver =>
    intro hd
    show t.worker.drained = true ∨ t.worker.unwinds = true
    rw [drained, unwinds]
    exact h.isOver (isDrained ▸ hd)
  case sweeping =>
    intro d hd sweeps
    show t.isDrained = true
    rw [isDrained]
    rcases List.mem_or_eq_of_mem_set hd with old | rfl
    · exact h.sweeping d (callers ▸ old) sweeps
    · rcases hm.sweeps_only sweeps with before | isOver
      · exact h.sweeping c (List.mem_of_getElem? hc) before
      · exact isOver

/-- The worker's step never takes a request to shut down back, and it requests the shutdown
itself when a panic ends it. -/
theorem Worker.Moves.shutdownRequested {s t : Batch α} {w w' : Worker α} {notes : List (Note α)}
    (h : w.Moves s t w' notes) :
    (t.isShutdown = s.isShutdown ∧ t.control.shutdownRequested = s.control.shutdownRequested) ∨
      (t.isShutdown = true ∧ t.control.shutdownRequested = true) := by
  cases h with
  | sweeps hw | endsSweep hw | unwindSweeps hw | endsUnwindSweep hw =>
      rw [hw.frame]
      exact .inl ⟨rfl, rfl⟩
  | unwinds => exact .inr ⟨rfl, rfl⟩
  | _ => exact .inl ⟨rfl, rfl⟩

theorem Worker.Moves.stays_requested {s t : Batch α} {w w' : Worker α} {notes : List (Note α)}
    (h : w.Moves s t w' notes) (hs : s.control.shutdownRequested = true) :
    t.control.shutdownRequested = true := by
  rcases h.shutdownRequested with ⟨-, same⟩ | ⟨-, now⟩
  · rw [same, hs]
  · exact now

/-- The worker takes up the final drain only once shutdown was requested. -/
theorem Worker.Moves.errand_isFinal {s t : Batch α} {w w' : Worker α} {notes : List (Note α)}
    {e : Errand} (h : w.Moves s t w' notes) (he : w'.errand? = some e) (final : e.isFinal = true) :
    w.errand? = some e ∨ s.control.shutdownRequested = true := by
  cases h with
  | beginsDrain requested => exact .inr requested
  | beginsFlush | beginsRoutine => cases he; cases final
  | rearms | measures | collects | sends | sent | notSent | countsExported | countsBatch |
    countsFailure | countsFailed | reportsFailure => exact .inl he
  | _ => cases he

/-- The final drain is over when the worker finds nothing more to send on this errand. -/
theorem Worker.Moves.drained_only {s t : Batch α} {w w' : Worker α} {notes : List (Note α)}
    (h : w.Moves s t w' notes) (hw : w'.drained = true) :
    w.drained = true ∨ ∃ p limit, w = .collecting p [] ∧ w' = .sealing limit p.result ∧
      p.errand = .shutdown limit ∧ p.Ends s 0 ∧ t = s ∧ notes = [] := by
  cases h with
  | endsDrain errand isOver => exact .inr ⟨_, _, rfl, rfl, errand, isOver, rfl, rfl⟩
  | seals | sweeps | endsSweep | closed | notClosed | reportsClose | concludes | announcesEnd |
    reports => exact .inl rfl
  | _ => cases hw

theorem Worker.Moves.terminated_only {s t : Batch α} {w w' : Worker α} {notes : List (Note α)}
    (h : w.Moves s t w' notes) (hw : w'.terminated = true) :
    w.terminated = true ∨ w = .unwinding ∧ t = s.terminate := by
  cases h with
  | unwinds => exact .inr ⟨rfl, rfl⟩
  | unwindSeals | unwindSweeps | endsUnwindSweep | unwindAnnounces => exact .inl rfl
  | _ => cases hw

/-- A panic ends the worker for good. -/
theorem Worker.Moves.unwinds_stays {s t : Batch α} {w w' : Worker α} {notes : List (Note α)}
    (h : w.Moves s t w' notes) (hw : w.unwinds = true) : w'.unwinds = true := by
  cases h with
  | unwinds | unwindSeals | unwindSweeps | endsUnwindSweep | unwindAnnounces => rfl
  | _ => cases hw

theorem Worker.Moves.terminated_stays {s t : Batch α} {w w' : Worker α} {notes : List (Note α)}
    (h : w.Moves s t w' notes) (hw : w.terminated = true) : w'.terminated = true := by
  cases h with
  | unwindSeals | unwindSweeps | endsUnwindSweep | unwindAnnounces => rfl
  | _ => cases hw

/-- Behind the final drain there are only the end and a panic. -/
theorem Worker.Moves.drained_stays {s t : Batch α} {w w' : Worker α} {notes : List (Note α)}
    (h : w.Moves s t w' notes) (hw : w.drained = true) :
    w'.drained = true ∨ w'.unwinds = true := by
  cases h with
  | panicsClosing => exact .inr rfl
  | seals | sweeps | endsSweep | closed | notClosed | reportsClose | concludes | announcesEnd |
    reports => exact .inl rfl
  | _ => cases hw

/-- The end of the drain is announced at two places, and the flag stays. -/
theorem Worker.Moves.isDrained {s t : Batch α} {w w' : Worker α} {notes : List (Note α)}
    (h : w.Moves s t w' notes) :
    t.isDrained = s.isDrained ∨
      (t.isDrained = true ∧ (w.drained = true ∨ w.terminated = true)) := by
  cases h with
  | sweeps hw | endsSweep hw | unwindSweeps hw | endsUnwindSweep hw =>
      rw [hw.frame]
      exact .inl rfl
  | seals => exact .inr ⟨rfl, .inl rfl⟩
  | unwindSeals => exact .inr ⟨rfl, .inr rfl⟩
  | _ => exact .inl rfl

theorem Worker.Moves.sealed_only {s t : Batch α} {w w' : Worker α} {notes : List (Note α)}
    (h : w.Moves s t w' notes) (hw : w'.sealed = true) :
    w.sealed = true ∨ t.isDrained = true := by
  cases h with
  | seals | unwindSeals => exact .inr rfl
  | sweeps | endsSweep | closed | notClosed | reportsClose | concludes | announcesEnd | reports |
    unwindSweeps | endsUnwindSweep | unwindAnnounces => exact .inl rfl
  | _ => cases hw

theorem ShutsDown.worker {s t : Batch α} {w : Worker α} {notes : List (Note α)}
    (h : ShutsDown s) (hm : s.worker.Moves s t w notes) : ShutsDown { t with worker := w } := by
  have requested := hm.stays_requested
  have isDrained (hd : s.isDrained = true) : t.isDrained = true := by
    rcases hm.isDrained with same | ⟨now, -⟩
    · rw [same, hd]
    · exact now
  constructor
  case flags =>
    show t.isShutdown = t.control.shutdownRequested
    rcases hm.shutdownRequested with ⟨flag, same⟩ | ⟨flag, now⟩
    · rw [flag, same, h.flags]
    · rw [flag, now]
  case errand =>
    intro e he final
    rcases hm.errand_isFinal he final with before | now
    · exact requested (h.errand e before final)
    · exact requested now
  case drained =>
    intro hw
    rcases hm.drained_only hw with before | ⟨p, limit, hp, -, errand, -⟩
    · exact requested (h.drained before)
    · refine requested (h.errand (.shutdown limit) ?_ rfl)
      rw [hp, ← errand]
      rfl
  case terminated =>
    intro hw
    rcases hm.terminated_only hw with before | ⟨-, rfl⟩
    · exact requested (h.terminated before)
    · rfl
  case sealed =>
    intro hw
    rcases hm.sealed_only hw with before | now
    · exact isDrained (h.sealed before)
    · exact now
  case requested =>
    intro hd
    rcases hm.isDrained with same | ⟨-, drained | terminated⟩
    · exact requested (h.requested (same ▸ hd))
    · exact requested (h.drained drained)
    · exact requested (h.terminated terminated)
  case isOver =>
    -- Whoever announces the end of the drain is behind the drain or in a panic, and stays there.
    intro hd
    have before : s.worker.drained = true ∨ s.worker.unwinds = true := by
      rcases hm.isDrained with same | ⟨-, drained | terminated⟩
      · exact h.isOver (same ▸ hd)
      · exact .inl drained
      · exact .inr (Worker.unwinds_of_terminated terminated)
    rcases before with drained | unwinds
    · exact hm.drained_stays drained
    · exact .inr (hm.unwinds_stays unwinds)
  case sweeping =>
    intro c hc sweeps
    refine isDrained ?_
    obtain ⟨-, -, callers | callers⟩ := hm.frame
    · exact h.sweeping c (callers ▸ hc) sweeps
    · have woken : c ∈ s.callers.map Caller.notify := callers ▸ hc
      obtain ⟨d, hd, rfl⟩ := List.mem_map.1 woken
      exact h.sweeping d hd (Caller.sweeps_notify d ▸ sweeps)

theorem ShutsDown.step {s u : Batch α} {label : Label α} {notes : List (Note α)}
    (h : ShutsDown s) (hm : s.Moves label u notes) : ShutsDown u := by
  cases hm with
  | begins op =>
      refine ⟨h.flags, h.errand, h.drained, h.terminated, h.sealed, h.requested, h.isOver, ?_⟩
      intro c hc sweeps
      rcases List.mem_append.1 hc with old | new
      · exact h.sweeping c old sweeps
      · rw [List.mem_singleton.1 new, Caller.sweeps_place] at sweeps
        cases sweeps
  | caller hc hm => exact h.caller hc hm
  | worker _ _ hm => exact h.worker hm

/-- The flags and the places fit together in every state of every run. -/
theorem Run.shutsDown {s t : Batch α} {labels : List (Label α)} {notes : List (Note α)}
    (run : Run s labels notes t) (h : ShutsDown s) : ShutsDown t :=
  run.preserves ShutsDown.step h

end Telemetry.Batch
