import Telemetry.Proofs.Batch.Drain
import Telemetry.Proofs.Batch.Producers

set_option autoImplicit false

/-! # How the exporter is called

The exporter sees batches and flushes, then at most one shutdown, then nothing. No batch is empty
or too long; the batches hold accepted records, each at most once, in the order of acceptance; and
a shutdown comes only when all that was accepted in time has left the queue. -/

namespace Telemetry.Batch

variable {α : Type}

/-! ## Batches and the last call -/

/-- The worker has shut the exporter down, or a panic ends it: it begins no more calls. -/
def Worker.finished : Worker α → Bool
  | .closing _ _ | .namingClose _ _ | .concluding _ _ | .announcingEnd | .reporting => true
  | .stopped _ | .unwinding | .unwindSealing | .unwindSweeping _ | .unwindAnnouncing => true
  | _ => false

theorem Worker.finished_woken (w : Worker α) : w.woken.finished = w.finished := by
  cases w <;> rfl

theorem Worker.hand_of_finished {w : Worker α} (h : w.finished = true) : w.hand = [] := by
  cases w with
  | collecting => cases h
  | _ => rfl

/-- The calls that a step of the worker begins: none, or one that is not the last, or the last. -/
theorem Worker.Moves.begins {s t : Batch α} {w w' : Worker α} {notes : List (Note α)}
    (h : w.Moves s t w' notes) :
    (calls notes = [] ∧ (w.finished = true → w'.finished = true)) ∨
      (∃ r, calls notes = [r] ∧ r.kind ≠ .close ∧ w.finished = false) ∨
      (∃ limit, calls notes = [.close limit] ∧ w.finished = false ∧ w'.finished = true ∧
        w.drained = true ∧ w'.drained = true) := by
  cases h with
  | sends | endsFlush => exact .inr (.inl ⟨_, rfl, nofun, rfl⟩)
  | @endsSweep w limit r t notes hw =>
      refine .inr (.inr ⟨limit, ?_, rfl, rfl, rfl, rfl⟩)
      rw [calls_append, hw.silent.1]
      rfl
  | sweeps hw => exact .inl ⟨hw.silent.1, nofun⟩
  | unwindSweeps hw | endsUnwindSweep hw => exact .inl ⟨hw.silent.1, fun _ => rfl⟩
  | beginsDrain | beginsFlush | beginsRoutine | fallsAsleep | wakes | rearms | measures | collects |
    endsRoutine | endsDrain | sent | notSent | countsExported | countsBatch | countsFailure |
    countsFailed | reportsFailure | flushed | publishes | publishesNothing | announces | seals =>
      exact .inl ⟨rfl, nofun⟩
  | _ => exact .inl ⟨rfl, fun _ => rfl⟩

theorem Pass.limit_le (p : Pass) (config : BatchConfig) :
    p.limit config ≤ config.maxBatchSize.toNat := by
  unfold limit
  split
  · exact Nat.le_refl _
  · exact Nat.min_le_right _ _

/-- What holds of the calls so far: only the last one may be a shutdown, and only if no more
follow; no batch is empty or too long. -/
structure Disciplined (notes : List (Note α)) (s : Batch α) : Prop where
  last : (∀ r ∈ calls notes, r.kind ≠ .close) ∨ (s.worker.finished = true ∧
    ∃ before limit, calls notes = before ++ [.close limit] ∧ ∀ r ∈ before, r.kind ≠ .close)
  sizes : ∀ batch ∈ batches (calls notes),
    1 ≤ batch.length ∧ batch.length ≤ s.config.maxBatchSize.toNat
  hand : s.worker.hand.length ≤ s.config.maxBatchSize.toNat

/-- A step that begins no call and leaves the worker's hand alone. -/
theorem Disciplined.silent {notes new : List (Note α)} {s u : Batch α}
    (h : Disciplined notes s) (none : calls new = []) (config : u.config = s.config)
    (finished : s.worker.finished = true → u.worker.finished = true)
    (hand : u.worker.hand = s.worker.hand) : Disciplined (notes ++ new) u := by
  constructor
  case last =>
    rw [calls_append, none, List.append_nil]
    rcases h.last with open_ | ⟨done, closed⟩
    · exact .inl open_
    · exact .inr ⟨finished done, closed⟩
  case sizes =>
    rw [calls_append, none, List.append_nil, config]
    exact h.sizes
  case hand =>
    rw [hand, config]
    exact h.hand

theorem Disciplined.worker {notes new : List (Note α)} {s t : Batch α} {w : Worker α}
    (h : Disciplined notes s) (hm : s.worker.Moves s t w new) :
    Disciplined (notes ++ new) { t with worker := w } := by
  have config := hm.frame.1
  constructor
  case last =>
    show (∀ r ∈ calls (notes ++ new), r.kind ≠ .close) ∨ (w.finished = true ∧ _)
    rw [calls_append]
    rcases hm.begins with ⟨none, stays⟩ | ⟨r, one, kind, running⟩ | ⟨limit, one, running, ends, -⟩
    · rw [none, List.append_nil]
      rcases h.last with open_ | ⟨done, closed⟩
      · exact .inl open_
      · exact .inr ⟨stays done, closed⟩
    · rcases h.last with open_ | ⟨done, -⟩
      · refine .inl fun r' hr' => ?_
        rcases List.mem_append.1 hr' with old | new
        · exact open_ r' old
        · rw [one] at new
          rw [List.mem_singleton.1 new]
          exact kind
      · exact absurd (running.symm.trans done) nofun
    · rcases h.last with open_ | ⟨done, -⟩
      · exact .inr ⟨ends, calls notes, limit, by rw [one], open_⟩
      · exact absurd (running.symm.trans done) nofun
  case sizes =>
    show ∀ batch ∈ batches (calls (notes ++ new)), _ ∧ _ ≤ t.config.maxBatchSize.toNat
    rw [config]
    intro batch hb
    rw [calls_append, batches_append] at hb
    rcases List.mem_append.1 hb with old | fresh
    · exact h.sizes batch old
    · -- A new batch is what the worker had in its hand.
      have bound := h.hand
      generalize s.worker = before at hm bound
      cases hm with
      | @sends p batch' some _ =>
          obtain rfl : batch = batch' := List.mem_singleton.1 fresh
          exact ⟨List.length_pos_iff.2 some, bound⟩
      | sweeps hw | unwindSweeps hw | endsUnwindSweep hw => rw [hw.silent.1] at fresh; cases fresh
      | endsSweep hw => rw [calls_append, hw.silent.1] at fresh; cases fresh
      | _ => cases fresh
  case hand =>
    show w.hand.length ≤ t.config.maxBatchSize.toNat
    rw [config]
    have bound := h.hand
    generalize s.worker = before at hm bound
    cases hm with
    | @collects p batch a rest room _ =>
        show (batch ++ [a]).length ≤ s.config.maxBatchSize.toNat
        rw [List.length_append]
        exact Nat.le_trans room (p.limit_le s.config)
    | _ => exact Nat.zero_le _

theorem Disciplined.run {s t : Batch α} {labels : List (Label α)} {notes : List (Note α)}
    (h : Disciplined [] s) (run : Run s labels notes t) : Disciplined notes t := by
  induction run with
  | nil => exact h
  | snoc run step ih =>
      cases moves_of_step step with
      | begins op => exact ih.silent rfl rfl id rfl
      | caller _ hm =>
          exact ih.silent hm.silent.1 hm.frame.1
            (fun done => (hm.worker_eq Worker.finished Worker.finished_woken).trans done)
            (hm.worker_eq Worker.hand Worker.hand_woken)
      | worker _ _ hm => exact ih.worker hm

theorem Run.disciplined {name : String} {config : BatchConfig} {s : Batch α}
    {labels : List (Label α)} {notes : List (Note α)}
    (run : Run (start name config) labels notes s) : Disciplined notes s :=
  Disciplined.run ⟨.inl nofun, nofun, Nat.zero_le _⟩ run

/-! ## The shutdown of the exporter -/

theorem Moves.shutdownRequested {s u : Batch α} {label : Label α} {notes : List (Note α)}
    (h : s.Moves label u notes) (hs : s.control.shutdownRequested = true) :
    u.control.shutdownRequested = true := by
  cases h with
  | begins op => exact hs
  | caller _ hm => exact hm.stays_requested hs
  | worker _ _ hm => exact hm.stays_requested hs

/-- The step that shuts the exporter down comes behind the final drain. -/
theorem Moves.drained_of_close {s u : Batch α} {label : Label α} {notes : List (Note α)}
    (h : s.Moves label u notes) {limit : Duration} (closes : .close limit ∈ calls notes) :
    s.worker.drained = true ∧ u.worker.drained = true := by
  cases h with
  | begins op => cases closes
  | caller _ hm => rw [hm.silent.1] at closes; cases closes
  | worker _ _ hm =>
      rcases hm.begins with ⟨none, -⟩ | ⟨r, one, kind, -⟩ | ⟨_, -, -, -, isOver, isOver'⟩
      · rw [none] at closes
        cases closes
      · rw [one] at closes
        obtain rfl := List.mem_singleton.1 closes
        exact absurd rfl kind
      · exact ⟨isOver, isOver'⟩

theorem Run.requested_of_closed {name : String} {config : BatchConfig} {s : Batch α}
    {labels : List (Label α)} {notes : List (Note α)}
    (run : Run (start name config) labels notes s) {limit : Duration}
    (closed : .close limit ∈ calls notes) : s.control.shutdownRequested = true := by
  induction run with
  | nil => cases closed
  | snoc run step ih =>
      have hm := moves_of_step step
      rw [calls_append] at closed
      rcases List.mem_append.1 closed with old | new
      · exact hm.shutdownRequested (ih old)
      · have sound := run.shutsDown (shutsDown_start name config)
        exact hm.shutdownRequested (sound.drained (hm.drained_of_close new).1)

/-- When the exporter is shut down, the records that were accepted before the shutdown was
requested have left the queue, and none of them was discarded. -/
theorem Run.settles_of_closed {name : String} {config : BatchConfig} {s t : Batch α}
    {l₁ l₂ : List (Label α)} {n₁ n₂ : List (Note α)} (run₁ : Run (start name config) l₁ n₁ s)
    (running : s.control.shutdownRequested = false) (run₂ : Run s l₂ n₂ t) {limit : Duration}
    (closed : .close limit ∈ calls (n₁ ++ n₂)) :
    ((start name config).history (l₁ ++ l₂)).Settles
      ((start name config).history l₁).accepted.length := by
  induction run₂ with
  | nil =>
      rw [List.append_nil] at closed
      exact absurd (running.symm.trans (run₁.requested_of_closed closed)) nofun
  | @snoc t u l₂ n₂ new label run₂ step ih =>
      have run := run₁.append run₂
      rw [← List.append_assoc, calls_append] at closed
      rw [← List.append_assoc, history_snoc run step]
      rcases List.mem_append.1 closed with old | now
      · exact (ih old).followedBy _
      · -- The exporter is shut down in this step, so the drain is over.
        have drains := run₁.drains running (.snoc run₂ step)
        rw [← List.append_assoc, history_snoc run step] at drains
        have isOver := ((moves_of_step step).drained_of_close now).2
        exact drains.settles isOver (Worker.not_unwinds_of_drained isOver)

/-! ## Where a record is -/

/-- A record that was taken for a batch is in the batches handed over or in the worker's hand, at
the place that the history gives it. -/
theorem Recorded.batched_at {h : History α} {notes : List (Note α)} {s : Batch α}
    (rec : Recorded h notes s) {k i : Nat} {a : α} (accepted : h.accepted[k]? = some (i, a))
    (batched : h.fates[k]? = some .batched) :
    ((batches (calls notes)).flatten ++ s.worker.hand)[h.rank k]? = some a := by
  rw [rec.batched, List.getElem?_map, History.withFate, History.rank,
    History.getElem?_select accepted batched]
  rfl

/-- A settled record went into a batch or was evicted. -/
theorem History.Settles.fate {h : History α} {m k : Nat} (settles : h.Settles m) (hk : k < m) :
    h.fates[k]? = some .evicted ∨ h.fates[k]? = some .batched := by
  obtain ⟨bound, spares⟩ := settles
  have lt : k < h.fates.length := Nat.lt_of_lt_of_le hk bound
  have kept := spares k hk
  rw [List.getElem?_eq_getElem lt] at kept ⊢
  cases hf : h.fates[k] with
  | batched => exact .inr rfl
  | evicted => exact .inl rfl
  | discarded => rw [hf] at kept; exact absurd rfl kept

theorem Disciplined.hand_of_closed {notes : List (Note α)} {s : Batch α} {limit : Duration}
    (h : Disciplined notes s) (closed : .close limit ∈ calls notes) : s.worker.hand = [] := by
  rcases h.last with open_ | ⟨done, -⟩
  · exact absurd rfl (open_ _ closed)
  · exact Worker.hand_of_finished done

/-- The record at place `k` of the history was evicted, or it is in a batch that one of the calls
handed over, at the place that the history gives it. -/
def History.Delivers (h : History α) (requests : List (Request α)) (k : Nat) (a : α) : Prop :=
  h.fates[k]? = some .evicted ∨
    h.fates[k]? = some .batched ∧ (batches requests).flatten[h.rank k]? = some a

/-- The calls on the exporter in any run: sends and flushes, then at most one shutdown and nothing
more; batches of at least one and at most the configured number of records; all batches together
are a part of the accepted records in the order of acceptance, which holds what each call brought
at most once and in an order that agrees with the order of calls; and when the exporter is shut
down, a record of a call that had returned before the shutdown was requested is in a batch already
or was evicted. -/
theorem exporter_calls_in_order {name : String} {config : BatchConfig} {s : Batch α}
    {labels : List (Label α)} {notes : List (Note α)} {h : History α}
    (run : Run (start name config) labels notes s)
    (recorded : (start name config).history labels = h) :
    (∃ before last, calls notes = before ++ last ∧ (∀ r ∈ before, r.kind ≠ .close) ∧
      (last = [] ∨ ∃ limit, last = [.close limit])) ∧
    (∀ batch ∈ batches (calls notes),
      1 ≤ batch.length ∧ batch.length ≤ config.maxBatchSize.toNat) ∧
    (∃ sent : List (Nat × α), (batches (calls notes)).flatten = sent.map Prod.snd ∧
      sent.Sublist h.accepted) ∧
    (h.accepted.map Prod.fst).Nodup ∧
    (∀ x ∈ h.accepted, (operations labels)[x.1]? = some (.receive x.2)) ∧
    ∀ l₁ l₂ n₁ n₂ t, labels = l₁ ++ l₂ → notes = n₁ ++ n₂ →
      Run (start name config) l₁ n₁ t → Run t l₂ n₂ s →
      (∀ (i j k l : Nat) (a b : α) (r : Option ProcessorResult),
        t.callers[i]? = some (.done r) → t.callers.length ≤ j →
        h.accepted[k]? = some (i, a) → h.accepted[l]? = some (j, b) → k < l) ∧
      (∀ (limit : Duration) (i k : Nat) (a : α) (r : Option ProcessorResult),
        t.control.shutdownRequested = false → .close limit ∈ calls notes →
        t.callers[i]? = some (.done r) → h.accepted[k]? = some (i, a) →
        h.Delivers (calls notes) k a) := by
  subst recorded
  have disciplined := run.disciplined
  have recorded := run.recorded
  have brought := run.brought
  refine ⟨?last, ?sizes, ?sent, brought.nodup, brought.own, ?splits⟩
  case last =>
    rcases disciplined.last with open_ | ⟨-, before, limit, closed, others⟩
    · exact ⟨calls notes, [], (List.append_nil _).symm, open_, .inl rfl⟩
    · exact ⟨before, [.close limit], closed, others, .inr ⟨limit, rfl⟩⟩
  case sizes =>
    have same : s.config = config := run.config
    exact same ▸ disciplined.sizes
  case sent =>
    refine ⟨(((start name config).history labels).withFate .batched).take
      (batches (calls notes)).flatten.length, ?_, ?_⟩
    · rw [List.map_take, ← recorded.batched, List.take_left']
      rfl
    · exact (List.take_sublist _ _).trans (History.select_sublist _ _ _)
  case splits =>
    rintro l₁ l₂ n₁ n₂ t rfl rfl run₁ run₂
    refine ⟨?order, ?closed⟩
    case order =>
      intro i j k l a b r returned later first second
      exact run₁.accepted_in_order run₂ returned later first second
    case closed =>
      intro limit i k a r running closed returned accepted
      have settles := run₁.settles_of_closed running run₂ closed
      rcases settles.fate (run₁.accepted_before run₂ returned accepted) with evicted | batched
      · exact .inl evicted
      · refine .inr ⟨batched, ?_⟩
        have placed := recorded.batched_at accepted batched
        rwa [disciplined.hand_of_closed closed, List.append_nil] at placed

/-- A call brings a record and returns. -/
def oneRecord : List (Label Nat) :=
  .begins (.receive 1) :: List.replicate 7 (.caller 0 false)

/-- A call shuts down, the worker drains the queue and shuts the exporter down. -/
def oneShutdown : List (Label Nat) :=
  [.begins (.shutdown (Duration.ofSecs 1)), .caller 1 false, .worker false, .worker false,
    .worker false, .ended (.returned (.ok ()))] ++ List.replicate 5 (.worker false)

theorem exporter_calls_in_order_of_one :
    ∃ (t s : Batch Nat) (n₁ n₂ : List (Note Nat)) (r : Option ProcessorResult),
      Run (start "logs" (smallest .dropNewest)) oneRecord n₁ t ∧ Run t oneShutdown n₂ s ∧
      t.control.shutdownRequested = false ∧ t.callers[0]? = some (.done r) ∧
      .close (Duration.ofSecs 1) ∈ calls (n₁ ++ n₂) ∧
      ((start "logs" (smallest .dropNewest)).history (oneRecord ++ oneShutdown)).accepted[0]?
        = some (0, 1) ∧
      ((start "logs" (smallest .dropNewest)).history (oneRecord ++ oneShutdown)).Delivers
        (calls (n₁ ++ n₂)) 0 1 := by
  obtain ⟨s, notes, run, closed⟩ := exists_run (start "logs" (smallest .dropNewest))
    (oneRecord ++ oneShutdown) (fun _ notes => .close (Duration.ofSecs 1) ∈ calls notes)
    (by decide +kernel)
  obtain ⟨t, n₁, n₂, run₁, run₂, rfl⟩ := run.split
  have running := run₁.test (fun t _ => !t.control.shutdownRequested) (by decide +kernel)
  have returned := run₁.test (fun t _ => (t.result? 0).isSome) (by decide +kernel)
  have accepted :
      ((start "logs" (smallest .dropNewest)).history (oneRecord ++ oneShutdown)).accepted[0]?
        = some (0, 1) := by decide +kernel
  rw [decide_eq_true_eq] at closed
  rw [Bool.not_eq_true'] at running
  obtain ⟨r, done⟩ := Option.isSome_iff_exists.1 returned
  have done := callers_of_result? done
  refine ⟨t, s, n₁, n₂, r, run₁, run₂, running, done, closed, accepted, ?_⟩
  have all := (exporter_calls_in_order run rfl).2.2.2.2.2
  exact (all _ _ _ _ t rfl rfl run₁ run₂).2 _ 0 0 1 r running closed done accepted

end Telemetry.Batch
