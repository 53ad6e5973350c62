import Telemetry.Proofs.Batch.Calls
import Telemetry.Proofs.Batch.Shutdown

set_option autoImplicit false

/-! # What the final drain leaves behind

The final drain is the pass without a bound: it ends only when it finds the queue empty. So of the
records that were accepted before the shutdown was requested, none is discarded, and all of them
have left the queue when the drain is over. A panic breaks this off; until then it holds. -/

namespace Telemetry.Batch

variable {α : Type}

/-! ## Passes -/

/-- The pass that the worker is in. -/
def Worker.pass? : Worker α → Option Pass
  | .collecting p _ | .sending p _ | .countingExported p _ | .countingBatch p _ => some p
  | .countingFailure p _ _ | .countingFailed p _ _ | .naming p _ _ => some p
  | _ => none

/-- The final drain has no bound, every other pass has one. -/
structure Passes (w : Worker α) : Prop where
  bound : ∀ p, w.pass? = some p → (p.remaining = none ↔ p.errand.isFinal = true)
  begun : ∀ errand, w = .rearming errand ∨ w = .measuring errand → errand.isFinal = false

theorem Passes.of_pass {w : Worker α} {p : Pass} (hw : w.pass? = some p)
    (h : p.remaining = none ↔ p.errand.isFinal = true) : Passes w where
  bound := by
    intro q hq
    obtain rfl := Option.some.inj (hw.symm.trans hq)
    exact h
  begun := by rintro errand (rfl | rfl) <;> cases hw

theorem Passes.of_no_pass {w : Worker α} (hw : w.pass? = none)
    (begun : ∀ errand, w = .rearming errand ∨ w = .measuring errand → errand.isFinal = false) :
    Passes w where
  bound := by
    intro p hp
    rw [hw] at hp
    cases hp
  begun := begun

theorem Passes.woken {w : Worker α} (h : Passes w) : Passes w.woken := by
  cases w with
  | asleep => exact .of_no_pass rfl (by rintro errand (h | h) <;> cases h)
  | _ => exact h

theorem Worker.Moves.passes {s t : Batch α} {w w' : Worker α} {notes : List (Note α)}
    (h : w.Moves s t w' notes) (hw : Passes w) : Passes w' := by
  cases h with
  | beginsDrain => exact .of_pass rfl ⟨fun _ => rfl, fun _ => rfl⟩
  | measures =>
      have bounded := hw.begun _ (.inr rfl)
      refine .of_pass rfl ⟨nofun, fun final => ?_⟩
      exact absurd (bounded.symm.trans final) nofun
  | beginsFlush | beginsRoutine =>
      refine .of_no_pass rfl ?_
      rintro errand (h | h) <;> cases h
      rfl
  | rearms =>
      refine .of_no_pass rfl ?_
      rintro errand (h | h) <;> cases h
      exact hw.begun _ (.inl rfl)
  | collects | sends | sent | notSent | countsExported | countsFailure | countsFailed =>
      exact .of_pass rfl (hw.bound _ rfl)
  | countsBatch | reportsFailure =>
      refine .of_pass rfl ?_
      have before := hw.bound _ rfl
      simpa [Pass.after] using before
  | _ => exact .of_no_pass rfl (by rintro errand (h | h) <;> cases h)

theorem Run.passes {s t : Batch α} {labels : List (Label α)} {notes : List (Note α)}
    (run : Run s labels notes t) (h : Passes s.worker) : Passes t.worker := by
  refine run.preserves (p := fun t => Passes t.worker) ?_ h
  intro t v label new ht hm
  cases hm with
  | begins op => exact ht
  | caller _ hm =>
      rcases hm.worker with same | woken
      · exact same ▸ ht
      · exact woken ▸ ht.woken
  | worker _ _ hm => exact hm.passes ht

theorem Passes.start (name : String) (config : BatchConfig) :
    Passes (Batch.start name config : Batch α).worker :=
  .of_no_pass rfl (by rintro errand (h | h) <;> cases h)

theorem maxBatchSize_pos (config : BatchConfig) : 0 < config.maxBatchSize.toNat :=
  UInt64.lt_iff_toNat_lt.1 config.batchSize_pos

/-- A pass without a bound ends at an empty queue. -/
theorem Pass.Ends.empty {s : Batch α} {p : Pass} (isOver : p.Ends s 0)
    (unbounded : p.remaining = none) : s.queue.items = [] := by
  rcases isOver with full | empty
  · have pos := maxBatchSize_pos s.config
    rw [Pass.limit, unbounded] at full
    exact absurd full (Nat.not_le.2 pos)
  · exact empty

/-! ## Records that are not discarded -/

/-- How a step extends the history of what left: not at all, or by one more fate, and by a discard
only once the end of the drain was announced. -/
theorem Touches.fates {s u : Batch α} {label : Label α} {h h' : History α}
    (touch : Touches s label u h h') (sound : ShutsDown s) :
    h'.fates = h.fates ∨ ∃ f, h'.fates = h.fates ++ [f] ∧
      (f = .discarded → s.isDrained = true) := by
  cases touch with
  | keeps => exact .inl rfl
  | accepts => exact .inl rfl
  | evicts => exact .inr ⟨.evicted, rfl, nofun⟩
  | batches => exact .inr ⟨.batched, rfl, nofun⟩
  | discards hd =>
      refine .inr ⟨.discarded, rfl, fun _ => ?_⟩
      cases hd with
      | caller _ hc _ => exact sound.sweeping _ (List.mem_of_getElem? hc) rfl
      | closing _ hs _ => exact sound.sealed (by rw [hs]; rfl)
      | unwinding _ hs _ => exact sound.sealed (by rw [hs]; rfl)

/-- Of the first `m` accepted records none was discarded so far. -/
def History.Spares (h : History α) (m : Nat) : Prop :=
  ∀ k < m, h.fates[k]? ≠ some .discarded

/-- The first `m` accepted records have left, and none of them was discarded. -/
def History.Settles (h : History α) (m : Nat) : Prop :=
  m ≤ h.fates.length ∧ h.Spares m

/-- One more fate spares the records that it is not about. -/
theorem History.Spares.append {h h' : History α} {m : Nat} (spares : h.Spares m) {f : Fate}
    (fates : h'.fates = h.fates ++ [f]) (kept : f = .discarded → m ≤ h.fates.length) :
    h'.Spares m := by
  intro k hk
  rw [fates]
  by_cases old : k < h.fates.length
  · rw [List.getElem?_append_left old]
    exact spares k hk
  · intro discarded
    rw [List.getElem?_append_right (Nat.le_of_not_lt old)] at discarded
    obtain rfl := List.mem_singleton.1 (List.mem_of_getElem? discarded)
    have bound := kept rfl
    omega

/-- What is settled stays settled. -/
theorem History.Settles.followedBy {h : History α} {m : Nat} (settles : h.Settles m)
    (h' : History α) : (h.followedBy h').Settles m := by
  obtain ⟨bound, spares⟩ := settles
  constructor
  · show m ≤ (h.fates ++ h'.fates).length
    rw [List.length_append]
    omega
  · intro k hk
    show (h.fates ++ h'.fates)[k]? ≠ some .discarded
    rw [List.getElem?_append_left (by omega)]
    exact spares k hk

/-- The first `m` records are safe: no discard has met them as long as no panic ends the worker,
and they have left once the drain is over. -/
structure Drains (m : Nat) (h : History α) (s : Batch α) : Prop where
  kept : s.worker.unwinds = false → h.Spares m
  drained : s.worker.drained = true → m ≤ h.fates.length

/-- Records that were accepted before the drain was over are safe from then on. -/
theorem Drains.of_running {m : Nat} {h : History α} {s : Batch α}
    (running : s.worker.drained = false) (none : .discarded ∉ h.fates) : Drains m h s where
  kept := fun _ _ _ hk => none (List.mem_of_getElem? hk)
  drained := fun hd => absurd (running.symm.trans hd) nofun

theorem Drains.settles {m : Nat} {h : History α} {s : Batch α} (drains : Drains m h s)
    (isOver : s.worker.drained = true) (calm : s.worker.unwinds = false) : h.Settles m :=
  ⟨drains.drained isOver, drains.kept calm⟩

theorem Worker.not_unwinds_of_drained {w : Worker α} (h : w.drained = true) :
    w.unwinds = false := by
  cases w with
  | sealing | sweeping | closing | namingClose | concluding | announcingEnd | reporting => rfl
  | stopped panicked => cases panicked <;> first | rfl | cases h
  | _ => cases h

theorem Drains.step {m : Nat} {h : History α} {notes new : List (Note α)} {s u : Batch α}
    {label : Label α} (drains : Drains m h s) (rec : Recorded h notes s) (sound : ShutsDown s)
    (passes : Passes s.worker) (bound : m ≤ h.accepted.length) (hm : s.Moves label u new) :
    Drains m (h.followedBy (s.record label u)) u := by
  have fates := (hm.touches h).fates sound
  generalize hh : h.followedBy (s.record label u) = h' at fates ⊢
  have more : h.fates.length ≤ h'.fates.length := by
    rw [← hh]
    exact List.length_append ▸ Nat.le_add_right _ _
  have calm (hu : u.worker.unwinds = false) : s.worker.unwinds = false := by
    cases hs : s.worker.unwinds with
    | false => rfl
    | true =>
        cases hm with
        | begins op => exact hs.symm.trans hu
        | caller _ hm =>
            rw [← hm.worker_eq Worker.unwinds Worker.unwinds_woken] at hs
            exact hs.symm.trans hu
        | worker _ _ hm => exact (hm.unwinds_stays hs).symm.trans hu
  constructor
  case kept =>
    intro hu
    have spares := drains.kept (calm hu)
    rcases fates with same | ⟨f, fates, discard⟩
    · intro k hk
      rw [same]
      exact spares k hk
    · -- A discard comes behind the end of the drain, when all `m` records have left.
      refine spares.append fates fun hf => ?_
      rcases sound.isOver (discard hf) with isOver | unwinds
      · exact drains.drained isOver
      · exact absurd ((calm hu).symm.trans unwinds) nofun
  case drained =>
    intro hu
    have before : s.worker.drained = true ∨ s.queue.items = [] := by
      cases hm with
      | begins op => exact .inl hu
      | caller _ hm =>
          refine .inl ?_
          rw [← hm.worker_eq Worker.drained Worker.drained_woken]
          exact hu
      | worker _ _ hm =>
          rcases hm.drained_only hu with isOver | ⟨p, limit, hs, -, errand, isOver, -⟩
          · exact .inl isOver
          · refine .inr (isOver.empty ((passes.bound p ?_).2 ?_))
            · rw [hs]
              rfl
            · rw [errand]
              rfl
    -- The drain ends at an empty queue: then all that was accepted has left.
    rcases before with isOver | empty
    · exact Nat.le_trans (drains.drained isOver) more
    · have len := rec.length_eq
      rw [Queue.length_of_nil empty] at len
      omega

/-! ## Runs -/

theorem Moves.isDrained {s u : Batch α} {label : Label α} {notes : List (Note α)}
    (h : s.Moves label u notes) (hs : s.isDrained = true) : u.isDrained = true := by
  cases h with
  | begins op => exact hs
  | caller _ hm => exact hm.frame.2.2.1.trans hs
  | worker _ _ hm =>
      rcases hm.isDrained with same | ⟨now, -⟩
      · exact same.trans hs
      · exact now

/-- Nothing is discarded before the end of the drain is announced. -/
theorem Run.isDrained_of_discarded {name : String} {config : BatchConfig} {s : Batch α}
    {labels : List (Label α)} {notes : List (Note α)}
    (run : Run (start name config) labels notes s)
    (discarded : .discarded ∈ ((start name config : Batch α).history labels).fates) :
    s.isDrained = true := by
  induction run with
  | nil => cases discarded
  | @snoc t u labels notes new label run step ih =>
      have hm := moves_of_step step
      have fates := (hm.touches ((start name config).history labels)).fates
        (run.shutsDown (shutsDown_start name config))
      rw [history_snoc run step] at discarded
      refine hm.isDrained ?_
      rcases fates with same | ⟨f, more, discard⟩
      · exact ih (same ▸ discarded)
      · rw [more] at discarded
        rcases List.mem_append.1 discarded with old | new
        · exact ih old
        · exact discard (List.mem_singleton.1 new).symm

/-- The records that were accepted before the shutdown was requested are safe. -/
theorem Run.drains {name : String} {config : BatchConfig} {s t : Batch α}
    {l₁ l₂ : List (Label α)} {n₁ n₂ : List (Note α)} (run₁ : Run (start name config) l₁ n₁ s)
    (running : s.control.shutdownRequested = false) (run₂ : Run s l₂ n₂ t) :
    Drains ((start name config).history l₁).accepted.length
      ((start name config).history (l₁ ++ l₂)) t := by
  induction run₂ with
  | nil =>
      have sound := run₁.shutsDown (shutsDown_start name config)
      rw [List.append_nil]
      refine .of_running ?_ fun discarded => ?_
      · cases drained : s.worker.drained with
        | false => rfl
        | true => exact absurd (running.symm.trans (sound.drained drained)) nofun
      · have requested := sound.requested (run₁.isDrained_of_discarded discarded)
        exact absurd (running.symm.trans requested) nofun
  | @snoc t u l₂ n₂ new label run₂ step ih =>
      have run := run₁.append run₂
      rw [← List.append_assoc, history_snoc run step]
      exact ih.step run.recorded (run.shutsDown (shutsDown_start name config))
        (run.passes (Passes.start name config)) (run₁.accepted_length_le l₂) (moves_of_step step)

end Telemetry.Batch
