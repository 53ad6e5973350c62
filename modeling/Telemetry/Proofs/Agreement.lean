import Telemetry.Proofs.Batch.Answering
import Telemetry.Proofs.Simple.Books

set_option autoImplicit false

/-! # The two processors agree

A simple processor hands each record to its exporter at once, a batch processor leaves this to its
worker. For one caller with an exporter that never fails there is no difference at the points where
it can look: both keep the same ledger, so each call returns the same, and whenever a flush or a
shutdown has returned, both exporters have been given the same and both processors count the
same. -/

namespace Telemetry

variable {α : Type}

/-- The result of call number `i` on a simple processor, once it has returned. -/
def Simple.result? (s : Simple α) (i : Nat) : Option (Option ProcessorResult) :=
  s.callers[i]?.bind fun c =>
    match c with
    | .done r => some r.result?
    | _ => none

/-- Two exporters have been asked for the same, and two processors have counted the same, as far as
records and requests go. How the records were cut into batches does not matter. -/
structure SameView (requests requests' : List (Request α)) (counters counters' : Counters) :
    Prop where
  records : delivered requests = delivered requests'
  flushes : tally .flush requests = tally .flush requests'
  closes : tally .close requests = tally .close requests'
  received : counters.received = counters'.received
  exported : counters.exported = counters'.exported
  recordsFailed : counters.recordsFailed = counters'.recordsFailed
  refused : counters.droppedAfterShutdown = counters'.droppedAfterShutdown

theorem Ledger.Shows.sameView {l : Ledger α} {requests requests' : List (Request α)}
    {counters counters' : Counters} (h : l.Shows requests counters)
    (h' : l.Shows requests' counters') : SameView requests requests' counters counters' where
  records := h.records.trans h'.records.symm
  flushes := h.flushes.trans h'.flushes.symm
  closes := h.closes.trans h'.closes.symm
  received := h.received.trans h'.received.symm
  exported := h.exported.trans h'.exported.symm
  recordsFailed := h.recordsFailed.trans h'.recordsFailed.symm
  refused := h.refused.trans h'.refused.symm

/-- A call that has returned comes back in order, unless its time has run out. -/
theorem Batch.spoils_of_done {s : Batch α} (returned : ∀ c ∈ s.callers, ∃ r, c = .done r)
    (inTime : ∀ i limit, s.result? i ≠ some (some (.error (.timeout limit)))) :
    ∀ c ∈ s.callers, c.spoils = false := by
  intro c hc
  obtain ⟨i, hi⟩ := List.mem_iff_getElem?.1 hc
  obtain ⟨r, rfl⟩ := returned c hc
  have late := inTime i
  rw [Batch.result?, hi] at late
  match r with
  | none => rfl
  | some (.ok _) => rfl
  | some (.error (.timeout limit)) => exact absurd rfl (late limit)
  | some (.error .alreadyShutdown) => rfl
  | some (.error (.exportFailed _)) => rfl
  | some (.error .workerTerminated) => rfl

/-- One caller makes the same calls on a batch processor and on a simple one, both with an exporter
that never fails. If no call runs out of time and no record is lost to a full queue, each call
returns the same on both, whatever the worker did meanwhile; and whenever the latest call is a
flush or a shutdown that has returned, both exporters have the same records in the same order and
have been flushed and shut down as often as each other, and both processors count the same. -/
theorem processors_agree {name : String} {config : BatchConfig} {labels : List (Batch.Label α)}
    {notes : List (Batch.Note α)} {s : Batch α} {labels' : List (Simple.Label α)}
    {notes' : List (Simple.Note α)} {t : Simple α}
    (run : Batch.Run (Batch.start name config) labels notes s)
    (run' : Simple.Run Simple.start labels' notes' t)
    (same : Batch.operations labels = (Simple.operations labels').map Simple.Operation.onBatch)
    (one : Batch.OneCaller (Batch.start name config) labels)
    (one' : Simple.OneCaller Simple.start labels')
    (succeeds : ∀ o ∈ Batch.outcomes notes, o.guarded = .ok ())
    (succeeds' : ∀ o ∈ Simple.outcomes notes', o.guarded = .ok ())
    (room : Batch.NoOverflow (Batch.start name config) labels)
    (returned : ∀ c ∈ s.callers, ∃ r, c = .done r)
    (returned' : ∀ c ∈ t.callers, ∃ r, c = .done r)
    (inTime : ∀ i limit, s.result? i ≠ some (some (.error (.timeout limit)))) :
    (∀ i, s.result? i = t.result? i) ∧
    (∀ op, (Simple.operations labels').getLast? = some op → op.onBatch.isReceive = false →
      SameView (Batch.calls notes) (Simple.calls notes') s.counters t.counters) := by
  have solo : Batch.Solo name config labels notes s :=
    { run, one, succeeds, room
      undropped := by
        intro op hop
        rw [same] at hop
        obtain ⟨op', -, rfl⟩ := List.mem_map.1 hop
        cases op' <;> exact nofun
      ordered := Batch.spoils_of_done returned inTime }
  have solo' : Simple.Solo labels' notes' t := ⟨run', one', succeeds'⟩
  have length : s.callers.length = 0 + (Batch.operations labels).length := run.callers_length
  have length' : t.callers.length = 0 + (Simple.operations labels').length :=
    run'.callers_length
  have lengths : (Batch.operations labels).length = (Simple.operations labels').length := by
    rw [same, List.length_map]
  -- Both answer call number `i` as the ledger says.
  have agree (i : Nat) (op : Simple.Operation α)
      (hop : (Simple.operations labels')[i]? = some op) :
      ∃ r, s.callers[i]? = some (.done r.result?) ∧ t.callers[i]? = some (.done r) ∧
        r.result? = (Simple.ledger ((Simple.operations labels').take i)).answer op.onBatch := by
    obtain ⟨r, hc', answer⟩ := solo'.answered returned' hop
    have hop' : (Batch.operations labels)[i]? = some op.onBatch := by
      rw [same, List.getElem?_map, hop]
      rfl
    have hc := solo.answered returned hop'
    rw [same, ← List.map_take] at hc
    exact ⟨r, hc.trans (congrArg (some <| Batch.Caller.done ·) answer.symm), hc', answer⟩
  constructor
  · intro i
    rw [Batch.result?, Simple.result?]
    rcases Nat.lt_or_ge i (Simple.operations labels').length with lt | ge
    · obtain ⟨r, hc, hc', -⟩ := agree i _ (List.getElem?_eq_getElem lt)
      rw [hc, hc']
      rfl
    · rw [List.getElem?_eq_none (by omega), List.getElem?_eq_none (by omega)]
      rfl
  · intro op last asks
    rw [List.getLast?_eq_getElem?] at last
    obtain ⟨r, hc, hc', answer⟩ := agree _ op last
    obtain ⟨result, hr⟩ : ∃ result, r.result? = some result := by
      rw [answer]
      cases op with
      | receive a => cases asks
      | flush limit | shutdown limit => exact ⟨_, rfl⟩
    rw [hr] at hc
    have shows := solo.shows (Batch.latest_eq hc (by omega))
    rw [same] at shows
    exact shows.sameView (solo'.shows (Simple.latest_eq hc' (by omega)))

/-- A record, a flush and a shutdown on a batch processor, with all that the worker does. -/
def onePass : List (Batch.Label Nat) :=
  .worker false :: .begins (.receive 1) :: List.replicate 7 (.caller 0 false) ++
    .begins (.flush (Duration.ofSecs 1)) :: List.replicate 2 (.caller 1 false) ++
    List.replicate 6 (.worker false) ++ .ended (.returned (.ok ())) ::
    List.replicate 3 (.worker false) ++ .ended (.returned (.ok ())) ::
    List.replicate 2 (.worker false) ++ .caller 1 false ::
    .begins (.shutdown (Duration.ofSecs 1)) :: .caller 2 false ::
    List.replicate 4 (.worker false) ++ .ended (.returned (.ok ())) ::
    List.replicate 3 (.worker false) ++ List.replicate 4 (.caller 2 false)

/-- The same calls on a simple processor. -/
def onePassAtOnce : List (Simple.Label Nat) :=
  .begins (.receive 1) :: List.replicate 3 (.caller 0) ++ .ended 0 (.returned (.ok ())) ::
    .begins (.flush (Duration.ofSecs 1)) :: List.replicate 2 (.caller 1) ++
    .ended 1 (.returned (.ok ())) :: .begins (.shutdown (Duration.ofSecs 1)) ::
    List.replicate 2 (.caller 2) ++ [.ended 2 (.returned (.ok ()))]

/-- Every call has returned, and none for lack of time. -/
def Batch.onTime (s : Batch α) : Bool :=
  s.callers.all fun c =>
    match c with
    | .done (some (.error (.timeout _))) => false
    | .done _ => true
    | _ => false

theorem Batch.returned_of_onTime {s : Batch α} (h : s.onTime = true) :
    (∀ c ∈ s.callers, ∃ r, c = .done r) ∧
      ∀ i limit, s.result? i ≠ some (some (.error (.timeout limit))) := by
  rw [Batch.onTime, List.all_eq_true] at h
  constructor
  · intro c hc
    have found := h c hc
    cases c with
    | done r => exact ⟨r, rfl⟩
    | _ => cases found
  · intro i limit late
    rw [Batch.result?, Option.bind_eq_some_iff] at late
    obtain ⟨c, hc, late⟩ := late
    have found := h c (List.mem_of_getElem? hc)
    cases c with
    | done r =>
        cases late
        cases found
    | _ => cases late

theorem processors_agree_of_one :
    ∃ (s : Batch Nat) (notes : List (Batch.Note Nat)) (t : Simple Nat)
      (notes' : List (Simple.Note Nat)),
      Batch.Run (Batch.start "logs" (Batch.smallest .dropNewest)) onePass notes s ∧
      Simple.Run Simple.start onePassAtOnce notes' t ∧
      Batch.calls notes = [.send [1], .flush (Duration.ofSecs 1), .close (Duration.ofSecs 1)] ∧
      s.result? 2 = t.result? 2 ∧
      SameView (Batch.calls notes) (Simple.calls notes') s.counters t.counters := by
  obtain ⟨s, notes, run, onTime⟩ := Batch.exists_run
    (Batch.start "logs" (Batch.smallest .dropNewest)) onePass (fun s _ => s.onTime)
    (by decide +kernel)
  obtain ⟨t, notes', run', ended⟩ := Simple.exists_run Simple.start onePassAtOnce
    (fun t notes' => t.callers.all Simple.Caller.isDone &&
      (Simple.outcomes notes').all fun o => decide (o.guarded = .ok ())) (by decide +kernel)
  have called := run.test (fun _ notes => Batch.calls notes ==
    [.send [1], .flush (Duration.ofSecs 1), .close (Duration.ofSecs 1)]) (by decide +kernel)
  have succeeds := run.test (fun _ notes =>
    (Batch.outcomes notes).all fun o => decide (o.guarded = .ok ())) (by decide +kernel)
  simp only [List.all_eq_true, decide_eq_true_eq, Bool.and_eq_true] at succeeds ended
  obtain ⟨returned, inTime⟩ := Batch.returned_of_onTime onTime
  have returned' : ∀ c ∈ t.callers, ∃ r, c = .done r := fun c hc =>
    Simple.Caller.eq_done_of_isDone (ended.1 c hc)
  obtain ⟨results, views⟩ := processors_agree run run' rfl
    (Batch.OneCaller.of_follow (by decide +kernel))
    (Simple.OneCaller.of_follow (by decide +kernel)) succeeds ended.2
    (Batch.NoOverflow.of_follow (by decide +kernel)) returned returned' inTime
  exact ⟨s, notes, t, notes', run, run', eq_of_beq called, results 2,
    views (.shutdown (Duration.ofSecs 1)) rfl rfl⟩

end Telemetry
