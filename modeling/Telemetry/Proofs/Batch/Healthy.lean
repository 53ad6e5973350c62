import Mathlib.Data.UInt
import Telemetry.Proofs.Batch.Conclusion
import Telemetry.Proofs.Ledger

set_option autoImplicit false

/-! # Runs in which the exporter never fails

With an exporter that accepts everything, no pass and no answer carries a failure, and the worker
comes neither to the places behind a failed call nor to a panic. What the exporter was given is
then what the counters say, but for the batch that the worker has not counted yet; and the
exporter was shut down exactly when the worker is past that call. -/

namespace Telemetry.Batch

variable {α : Type}

/-! ## Nothing fails -/

/-- A place of the worker that knows of no failure. -/
def Worker.Healthy : Worker α → Prop
  | .collecting p _ | .sending p _ | .countingExported p _ | .countingBatch p _ =>
    p.result = .ok ()
  | .flushing _ _ r | .sealing _ r | .sweeping _ _ r | .closing _ r => r = .ok ()
  | .publishing _ r => r = .ok ()
  | .concluding r closed => r = .ok () ∧ closed = .ok ()
  | .deciding | .asleep _ | .rearming _ | .measuring _ | .announcing => True
  | .announcingEnd | .reporting | .stopped false => True
  | _ => False

/-- Nothing has failed so far. -/
structure Healthy (s : Batch α) : Prop where
  worker : s.worker.Healthy
  flushResult : s.control.flushResult = .ok ()
  shutdownResult : ∀ r, s.control.shutdownResult = some r → r = .ok ()
  recordsFailed : s.counters.recordsFailed = 0

theorem Worker.healthy_woken {w : Worker α} (h : w.Healthy) : w.woken.Healthy := by
  cases w <;> exact h

theorem Sweep.Moves.recordsFailed {s t : Batch α} {w : Sweep} {next : Option Sweep}
    {notes : List (Note α)} (h : w.Moves s t next notes) :
    t.counters.recordsFailed = s.counters.recordsFailed ∧
      t.counters.exported = s.counters.exported := by
  cases h <;> exact ⟨rfl, rfl⟩

theorem Caller.Moves.recordsFailed {s t : Batch α} {c c' : Caller α} {notes : List (Note α)}
    (h : c.Moves s t c' notes) :
    t.counters.recordsFailed = s.counters.recordsFailed ∧
      t.counters.exported = s.counters.exported := by
  cases h with
  | sweeps hw | endsSweep hw => exact hw.recordsFailed
  | _ => exact ⟨rfl, rfl⟩

theorem Worker.Moves.healthy {s t : Batch α} {w w' : Worker α} {notes : List (Note α)}
    (h : w.Moves s t w' notes) (ok : ∀ o ∈ outcomes notes, o.guarded = .ok ())
    (hw : w.Healthy) : w'.Healthy := by
  cases h with
  | beginsDrain | measures => rfl
  | wakes | rearms | endsRoutine | publishes | publishesNothing | announces | concludes |
    announcesEnd | reports | beginsFlush | beginsRoutine | fallsAsleep => trivial
  | notSent failed | notClosed failed =>
      exact absurd (failed.symm.trans (ok _ (List.mem_singleton_self _))) nofun
  | flushed =>
      obtain rfl := hw
      show (firstFailure (.ok ()) _).toProcessor = .ok ()
      rw [ok _ (List.mem_singleton_self _)]
      rfl
  | closed => exact ⟨hw, rfl⟩
  | @countsBatch p =>
      show firstFailure p.result (.ok ()) = .ok ()
      rw [show p.result = .ok () from hw]
      rfl
  | collects | sends | endsFlush | endsDrain | sent | countsExported | seals | sweeps |
    endsSweep => exact hw
  | _ => exact hw.elim

theorem Worker.Moves.answers_ok {s t : Batch α} {w w' : Worker α} {notes : List (Note α)}
    (h : w.Moves s t w' notes) (hw : w.Healthy) :
    (t.control.flushResult = s.control.flushResult ∨ t.control.flushResult = .ok ()) ∧
      (t.control.shutdownResult = s.control.shutdownResult ∨
        t.control.shutdownResult = some (.ok ())) ∧
      t.counters.recordsFailed = s.counters.recordsFailed := by
  cases h with
  | sweeps hs | endsSweep hs | unwindSweeps hs | endsUnwindSweep hs =>
      rw [hs.recordsFailed.1, hs.frame]
      exact ⟨.inl rfl, .inl rfl, rfl⟩
  | publishes => exact ⟨.inr hw, .inl rfl, rfl⟩
  | concludes =>
      obtain ⟨rfl, rfl⟩ := hw
      exact ⟨.inr rfl, .inr rfl, rfl⟩
  | countsFailed | unwinds => exact hw.elim
  | _ => exact ⟨.inl rfl, .inl rfl, rfl⟩

theorem Healthy.step {s u : Batch α} {label : Label α} {notes : List (Note α)} (h : Healthy s)
    (hm : s.Moves label u notes) (ok : ∀ o ∈ outcomes notes, o.guarded = .ok ()) :
    Healthy u := by
  cases hm with
  | begins op => exact ⟨h.worker, h.flushResult, h.shutdownResult, h.recordsFailed⟩
  | caller _ hm =>
      refine ⟨?_, hm.flushControl.2.1.trans h.flushResult, ?_,
        hm.recordsFailed.1.trans h.recordsFailed⟩
      · show Worker.Healthy _
        rcases hm.worker with same | woken
        · exact same ▸ h.worker
        · exact woken ▸ Worker.healthy_woken h.worker
      · intro r answer
        exact h.shutdownResult r (hm.shutdownResult.symm.trans answer)
  | worker _ _ hm =>
      obtain ⟨flush, shutdown, failed⟩ := hm.answers_ok h.worker
      refine ⟨hm.healthy ok h.worker, ?_, ?_, failed.trans h.recordsFailed⟩
      · rcases flush with same | now
        · exact same.trans h.flushResult
        · exact now
      · intro r answer
        rcases shutdown with same | now
        · exact h.shutdownResult r (same.symm.trans answer)
        · exact (Option.some.inj (answer.symm.trans now))

theorem Run.healthy {name : String} {config : BatchConfig} {s : Batch α}
    {labels : List (Label α)} {notes : List (Note α)}
    (run : Run (start name config) labels notes s)
    (ok : ∀ o ∈ outcomes notes, o.guarded = .ok ()) : Healthy s := by
  induction run with
  | nil => exact ⟨trivial, rfl, nofun, rfl⟩
  | snoc _ step ih =>
      rw [outcomes_append] at ok
      exact (ih fun o ho => ok o (List.mem_append_left _ ho)).step (moves_of_step step)
        fun o ho => ok o (List.mem_append_right _ ho)

/-- A worker that knows of no failure is in no panic. -/
theorem Worker.Healthy.not_unwinds {w : Worker α} (h : w.Healthy) : w.unwinds = false := by
  cases w with
  | stopped panicked => cases panicked <;> first | rfl | exact h.elim
  | unwinding | unwindSealing | unwindSweeping | unwindAnnouncing => exact h.elim
  | _ => rfl

/-! ## What was exported -/

/-- The records of an accepted batch that the worker still has to count, and of a batch that the
exporter has. -/
def Worker.unexported : Worker α → Nat
  | .sending _ batch => batch.length
  | .countingExported _ size => size
  | _ => 0

@[simp] theorem Worker.unexported_woken (w : Worker α) : w.woken.unexported = w.unexported := by
  cases w <;> rfl

theorem Worker.Moves.exported {s t : Batch α} {w w' : Worker α} {notes : List (Note α)}
    (h : w.Moves s t w' notes) (hw' : w'.Healthy) :
    t.counters.exported + w'.unexported.toUInt64 =
      s.counters.exported + w.unexported.toUInt64 +
        (delivered (calls notes)).length.toUInt64 := by
  cases h with
  | sweeps hs | unwindSweeps hs | endsUnwindSweep hs =>
      rw [hs.silent.1, hs.recordsFailed.2]
      exact (UInt64.add_zero _).symm
  | endsSweep hs =>
      rw [calls_append, hs.silent.1, hs.recordsFailed.2]
      exact (UInt64.add_zero _).symm
  | @sends p batch =>
      have given : (delivered [Request.send batch]).length = batch.length := by
        simp [delivered, batches, Request.batch?]
      show _ = _ + 0 + (delivered [Request.send batch]).length.toUInt64
      rw [given, UInt64.add_zero]
      rfl
  | @countsExported p size =>
      show s.counters.exported + size.toUInt64 + 0 = s.counters.exported + size.toUInt64 + 0
      rfl
  | notSent => exact hw'.elim
  | _ => exact (UInt64.add_zero _).symm

/-- The exported records are those that the exporter was given, once they are counted. -/
theorem Run.exported {name : String} {config : BatchConfig} {s : Batch α}
    {labels : List (Label α)} {notes : List (Note α)}
    (run : Run (start name config) labels notes s)
    (ok : ∀ o ∈ outcomes notes, o.guarded = .ok ()) :
    s.counters.exported + s.worker.unexported.toUInt64 =
      (delivered (calls notes)).length.toUInt64 := by
  induction run with
  | nil => rfl
  | @snoc t u labels notes new label run step ih =>
      have healthy := (Run.snoc run step).healthy ok
      rw [outcomes_append] at ok
      have before := ih fun o ho => ok o (List.mem_append_left _ ho)
      rw [calls_append, delivered_append, List.length_append]
      have add : (delivered (calls notes)).length.toUInt64 +
          (delivered (calls new)).length.toUInt64 =
          ((delivered (calls notes)).length + (delivered (calls new)).length).toUInt64 :=
        (UInt64.ofNat_add _ _).symm
      rw [← add, ← before]
      cases moves_of_step step with
      | begins op => exact (UInt64.add_zero _).symm
      | @caller i expired c c' t' _ hc hm =>
          show t'.counters.exported + t'.worker.unexported.toUInt64 = _
          rw [hm.recordsFailed.2, hm.silent.1,
            hm.worker_eq Worker.unexported Worker.unexported_woken]
          exact (UInt64.add_zero _).symm
      | worker _ _ hm => exact hm.exported healthy.worker

/-! ## How often the exporter was shut down -/

/-- The worker has shut the exporter down. -/
def Worker.shuts : Worker α → Bool
  | .closing _ _ | .namingClose _ _ | .concluding _ _ => true
  | .announcingEnd | .reporting | .stopped _ => true
  | _ => false

@[simp] theorem Worker.shuts_woken (w : Worker α) : w.woken.shuts = w.shuts := by
  cases w <;> rfl

theorem Worker.Moves.shuts {s t : Batch α} {w w' : Worker α} {notes : List (Note α)}
    (h : w.Moves s t w' notes) (hw' : w'.Healthy) :
    w'.shuts.toNat = w.shuts.toNat + tally .close (calls notes) := by
  cases h with
  | sweeps hs => rw [hs.silent.1]; rfl
  | endsSweep hs =>
      rw [calls_append, hs.silent.1]
      rfl
  | panicsClosing | unwindSweeps | endsUnwindSweep | unwindAnnounces => exact hw'.elim
  | _ => rfl

theorem Run.shuts {name : String} {config : BatchConfig} {s : Batch α}
    {labels : List (Label α)} {notes : List (Note α)}
    (run : Run (start name config) labels notes s)
    (ok : ∀ o ∈ outcomes notes, o.guarded = .ok ()) :
    tally .close (calls notes) = s.worker.shuts.toNat := by
  induction run with
  | nil => rfl
  | @snoc t u labels notes new label run step ih =>
      have healthy := (Run.snoc run step).healthy ok
      rw [outcomes_append] at ok
      have before := ih fun o ho => ok o (List.mem_append_left _ ho)
      rw [calls_append, tally_append, before]
      cases moves_of_step step with
      | begins op => rfl
      | @caller i expired c c' t' _ hc hm =>
          show _ = t'.worker.shuts.toNat
          rw [hm.silent.1, hm.worker_eq Worker.shuts Worker.shuts_woken]
          rfl
      | worker _ _ hm => exact (hm.shuts healthy.worker).symm

end Telemetry.Batch
