import Telemetry.Proofs.Batch.Backlog

set_option autoImplicit false

/-! # An undisturbed pass cuts the queue

The worker alone with the queue takes it apart from the front: one batch after the other, each as
long as a batch may be, until what is left goes into the last one. So the batches of a pass are the
consecutive parts of the queue, whichever of them the exporter accepts, and both kinds of passes
make the same calls: the one that counts down what was queued at its start, and the final drain that
goes on until the queue is empty. -/

namespace Telemetry

/-- The counts of batches alone. -/
def Counters.ofBatches (c : Counters) : Counters :=
  ⟨0, 0, 0, c.exported, c.batches, c.failures, c.recordsFailed⟩

namespace Batch

variable {α : Type}

/-! ## Cutting a list -/

/-- The parts of a list one after the other, each with `b` records but the last one, which may have
less; none is empty. -/
structure IsCut (b : Nat) (items : List α) (parts : List (List α)) : Prop where
  whole : parts.flatten = items
  count : parts.length = (items.length + b - 1) / b
  nonempty : ∀ part ∈ parts, part ≠ []
  size_le : ∀ part ∈ parts, part.length ≤ b
  size : ∀ (k : Nat) (part : List α), parts[k]? = some part → k + 1 < parts.length → part.length = b

/-- Part number `k` of a list. -/
def chunk (b : Nat) (items : List α) (k : Nat) : List α :=
  (items.drop (k * b)).take b

/-- The first parts of a list. -/
def chunks (b : Nat) (items : List α) (count : Nat) : List (List α) :=
  (List.range count).map (chunk b items)

/-- All parts of a list. -/
def cutUp (b : Nat) (items : List α) : List (List α) :=
  chunks b items ((items.length + b - 1) / b)

section Cutting

variable {b : Nat} {items : List α} {k : Nat}

theorem chunks_succ (b : Nat) (items : List α) (count : Nat) :
    chunks b items (count + 1) = chunks b items count ++ [chunk b items count] := by
  rw [chunks, List.range_succ, List.map_append]
  rfl

@[simp] theorem length_chunks (b : Nat) (items : List α) (count : Nat) :
    (chunks b items count).length = count := by
  simp [chunks]

/-- The first parts together are what is before the next one. -/
theorem flatten_chunks (b : Nat) (items : List α) (count : Nat) :
    (chunks b items count).flatten = items.take (count * b) := by
  induction count with
  | zero => simp [chunks]
  | succ count ih =>
      rw [chunks_succ, List.flatten_append, ih, List.flatten_singleton, chunk, Nat.succ_mul,
        ← List.take_add]

/-- The number of parts is the one where the list is used up, and not before. -/
theorem count_eq (pos : 0 < b) (isOver : items.length ≤ k * b) (before : k * b < items.length + b) :
    k = (items.length + b - 1) / b := by
  refine (Nat.div_eq_of_lt_le ?_ ?_).symm
  · omega
  · rw [Nat.succ_mul]
    omega

theorem lt_count_iff (pos : 0 < b) :
    k < (items.length + b - 1) / b ↔ k * b < items.length := by
  rw [Nat.lt_iff_add_one_le, Nat.le_div_iff_mul_le pos, Nat.succ_mul]
  omega

theorem length_chunk (b : Nat) (items : List α) (k : Nat) :
    (chunk b items k).length = min b (items.length - k * b) := by
  rw [chunk, List.length_take, List.length_drop]

theorem isCut_cutUp (pos : 0 < b) (items : List α) : IsCut b items (cutUp b items) := by
  have isOver : ¬(items.length + b - 1) / b * b < items.length := fun more =>
    Nat.lt_irrefl _ ((lt_count_iff pos).2 more)
  constructor
  case whole => rw [cutUp, flatten_chunks, List.take_of_length_le (Nat.le_of_not_lt isOver)]
  case count => rw [cutUp, length_chunks]
  case nonempty =>
    intro part member
    obtain ⟨i, below, rfl⟩ := List.mem_map.1 member
    have := (lt_count_iff pos).1 (List.mem_range.1 below)
    rw [← List.length_pos_iff, length_chunk]
    omega
  case size_le =>
    intro part member
    obtain ⟨i, -, rfl⟩ := List.mem_map.1 member
    rw [length_chunk]
    omega
  case size =>
    intro i part here more
    rw [cutUp, length_chunks, lt_count_iff pos, Nat.succ_mul] at more
    simp only [cutUp, chunks, List.getElem?_map, Option.map_eq_some_iff] at here
    obtain ⟨j, there, rfl⟩ := here
    obtain ⟨-, rfl⟩ := List.getElem?_eq_some_iff.1 there
    rw [List.getElem_range, length_chunk]
    omega

end Cutting

/-! ## Answers to a pass -/

/-- The first failure, if there is one. -/
def firstFailing (results : List ExportResult) : ExportResult :=
  (results.find? fun r => !r.isOk).getD (.ok ())

theorem firstFailing_concat (results : List ExportResult) (r : ExportResult) :
    firstFailing (results ++ [r]) = firstFailure (firstFailing results) r := by
  unfold firstFailing
  rw [List.find?_append]
  cases found : results.find? fun r => !r.isOk with
  | none =>
      cases r with
      | ok => rfl
      | error e => rfl
  | some bad =>
      have failed := List.find?_some found
      cases bad with
      | ok => cases failed
      | error e => rfl

/-- The batches that were accepted. -/
def passed (answers : List (List α × ExportResult)) : List (List α) :=
  (answers.filter (·.2.isOk)).map (·.1)

/-- The batches that failed. -/
def failed (answers : List (List α × ExportResult)) : List (List α) :=
  (answers.filter (!·.2.isOk)).map (·.1)

/-- The counts of batches have grown: by `records` records in `batches` batches that were accepted,
and by `lost` records in `failures` that failed. -/
structure Grown (c c' : Counters) (records batches lost failures : Nat) : Prop where
  exported : c'.exported = c.exported + records.toUInt64
  batches : c'.batches = c.batches + batches.toUInt64
  recordsFailed : c'.recordsFailed = c.recordsFailed + lost.toUInt64
  failures : c'.failures = c.failures + failures.toUInt64

/-- The counts of batches have grown by these answers. -/
def Counted (c c' : Counters) (answers : List (List α × ExportResult)) : Prop :=
  Grown c c' (passed answers).flatten.length (passed answers).length
    (failed answers).flatten.length (failed answers).length

/-- The answers to the first parts. -/
def answersOf (b : Nat) (items : List α) (os : List Outcome) : List (List α × ExportResult) :=
  (chunks b items os.length).zip (os.map Outcome.guarded)

theorem answersOf_concat (b : Nat) (items : List α) (os : List Outcome) (o : Outcome) :
    answersOf b items (os ++ [o])
      = answersOf b items os ++ [(chunk b items os.length, o.guarded)] := by
  unfold answersOf
  rw [List.length_append, List.length_singleton, chunks_succ, List.map_append,
    List.zip_append (by simp)]
  rfl

section Counting

variable {c c' : Counters} {answers : List (List α × ExportResult)} {part : List α}
  {records batches lost failures n : Nat}

theorem passed_concat (answers : List (List α × ExportResult)) (part : List α) (r : ExportResult) :
    passed (answers ++ [(part, r)]) = passed answers ++ if r.isOk then [part] else [] := by
  unfold passed
  rw [List.filter_append, List.map_append]
  cases r <;> rfl

theorem failed_concat (answers : List (List α × ExportResult)) (part : List α) (r : ExportResult) :
    failed (answers ++ [(part, r)]) = failed answers ++ if r.isOk then [] else [part] := by
  unfold failed
  rw [List.filter_append, List.map_append]
  cases r <;> rfl

theorem Grown.exportRecords (grown : Grown c c' records batches lost failures) (n : Nat) :
    Grown c (c'.exportRecords n.toUInt64) (records + n) batches lost failures where
  exported := by
    rw [toUInt64_add, ← UInt64.add_assoc, ← grown.exported]
    rfl
  batches := grown.batches
  recordsFailed := grown.recordsFailed
  failures := grown.failures

theorem Grown.exportBatch (grown : Grown c c' records batches lost failures) :
    Grown c c'.exportBatch records (batches + 1) lost failures where
  exported := grown.exported
  batches := by
    rw [toUInt64_add, ← UInt64.add_assoc, ← grown.batches]
    rfl
  recordsFailed := grown.recordsFailed
  failures := grown.failures

theorem Grown.failCall (grown : Grown c c' records batches lost failures) :
    Grown c c'.failCall records batches lost (failures + 1) where
  exported := grown.exported
  batches := grown.batches
  recordsFailed := grown.recordsFailed
  failures := by
    rw [toUInt64_add, ← UInt64.add_assoc, ← grown.failures]
    rfl

theorem Grown.failRecords (grown : Grown c c' records batches lost failures) (n : Nat) :
    Grown c (c'.failRecords n.toUInt64) records batches (lost + n) failures where
  exported := grown.exported
  batches := grown.batches
  recordsFailed := by
    rw [toUInt64_add, ← UInt64.add_assoc, ← grown.recordsFailed]
    rfl
  failures := grown.failures

theorem counted_passed
    (grown : Grown c c' ((passed answers).flatten.length + part.length)
      ((passed answers).length + 1) (failed answers).flatten.length (failed answers).length) :
    Counted c c' (answers ++ [(part, .ok ())]) := by
  unfold Counted
  rw [passed_concat, failed_concat]
  simpa [Except.isOk, Except.toBool] using grown

theorem counted_failed {e : ExportError}
    (grown : Grown c c' (passed answers).flatten.length (passed answers).length
      ((failed answers).flatten.length + part.length) ((failed answers).length + 1)) :
    Counted c c' (answers ++ [(part, .error e)]) := by
  unfold Counted
  rw [passed_concat, failed_concat]
  simpa [Except.isOk, Except.toBool] using grown

end Counting

/-! ## Along a pass -/

/-- The pass has got answers to its first parts. -/
structure Pass.Stage (errand : Errand) (b : Nat) (items : List α) (p : Pass) (os : List Outcome) :
    Prop where
  errand : p.errand = errand
  remaining : p.remaining = none ∨ p.remaining = some (items.length - os.length * b)
  result : p.result = firstFailing (os.map Outcome.guarded)
  before : os.length * b < items.length + b

/-- The pass has handed over the part behind the first ones, and the exporter has answered. -/
structure Pass.Answered (errand : Errand) (b : Nat) (items : List α) (requests : List (Request α))
    (queue : List α) (p : Pass) (size : Nat) (os : List Outcome) : Prop where
  stage : p.Stage errand b items os
  calls : requests = (chunks b items (os.length + 1)).map .send
  size : size = (chunk b items os.length).length
  inside : os.length * b < items.length
  queue : queue = items.drop ((os.length + 1) * b)

/-- A whole pass has handed over the parts of the queue, and has counted the answers. -/
structure CutsQueue (b : Nat) (items : List α) (c c' : Counters) (requests : List (Request α))
    (os : List Outcome) (r : ExportResult) : Prop where
  cut : IsCut b items (cutUp b items)
  calls : requests = (cutUp b items).map .send
  answered : os.length = (cutUp b items).length
  result : r = firstFailing (os.map Outcome.guarded)
  counted : Counted c c' ((cutUp b items).zip (os.map Outcome.guarded))

/-- What has been done so far at each place of the worker in a pass that nobody disturbs, and in the
flush behind it: the calls, their answers, the queue and the counts. -/
inductive Pass.Along (errand : Errand) (b : Nat) (items : List α) (c : Counters)
    (requests : List (Request α)) (os : List Outcome) (queue : List α) (c' : Counters) :
    Worker α → Prop where
  | rearming : requests = [] → os = [] → queue = items → Grown c c' 0 0 0 0 →
      Along errand b items c requests os queue c' (.rearming errand)
  | measuring : requests = [] → os = [] → queue = items → Grown c c' 0 0 0 0 →
      Along errand b items c requests os queue c' (.measuring errand)
  | collecting {p : Pass} {batch : List α} : p.Stage errand b items os →
      requests = (chunks b items os.length).map .send →
      batch ++ queue = items.drop (os.length * b) → batch.length ≤ b →
      Counted c c' (answersOf b items os) →
      Along errand b items c requests os queue c' (.collecting p batch)
  | sending {p : Pass} : p.Stage errand b items os →
      requests = (chunks b items (os.length + 1)).map .send → os.length * b < items.length →
      queue = items.drop ((os.length + 1) * b) → Counted c c' (answersOf b items os) →
      Along errand b items c requests os queue c' (.sending p (chunk b items os.length))
  | countingExported {p : Pass} {size : Nat} {before : List Outcome} {o : Outcome} :
      p.Answered errand b items requests queue size before → os = before ++ [o] →
      o.guarded = .ok () → Counted c c' (answersOf b items before) →
      Along errand b items c requests os queue c' (.countingExported p size)
  | countingBatch {p : Pass} {size : Nat} {before : List Outcome} {o : Outcome} :
      p.Answered errand b items requests queue size before → os = before ++ [o] →
      o.guarded = .ok () →
      Grown c c' ((passed (answersOf b items before)).flatten.length + size)
        (passed (answersOf b items before)).length
        (failed (answersOf b items before)).flatten.length
        (failed (answersOf b items before)).length →
      Along errand b items c requests os queue c' (.countingBatch p size)
  | countingFailure {p : Pass} {size : Nat} {e : ExportError} {before : List Outcome}
      {o : Outcome} :
      p.Answered errand b items requests queue size before → os = before ++ [o] →
      o.guarded = .error e → Counted c c' (answersOf b items before) →
      Along errand b items c requests os queue c' (.countingFailure p size e)
  | countingFailed {p : Pass} {size : Nat} {e : ExportError} {before : List Outcome}
      {o : Outcome} :
      p.Answered errand b items requests queue size before → os = before ++ [o] →
      o.guarded = .error e →
      Grown c c' (passed (answersOf b items before)).flatten.length
        (passed (answersOf b items before)).length
        (failed (answersOf b items before)).flatten.length
        ((failed (answersOf b items before)).length + 1) →
      Along errand b items c requests os queue c' (.countingFailed p size e)
  | naming {p : Pass} {size : Nat} {e : ExportError} {before : List Outcome} {o : Outcome} :
      p.Answered errand b items requests queue size before → os = before ++ [o] →
      o.guarded = .error e → Counted c c' (answersOf b items os) →
      Along errand b items c requests os queue c' (.naming p size e)
  | flushing {number : Nat} {limit : Duration} {r : ExportResult} {sends : List (Request α)} :
      errand = .flush number limit → requests = sends ++ [.flush limit] →
      CutsQueue b items c c' sends os r →
      Along errand b items c requests os queue c' (.flushing number limit r)
  | publishing {number : Nat} {limit : Duration} {r : ExportResult} {sends : List (Request α)}
      {before : List Outcome} {o : Outcome} : errand = .flush number limit →
      requests = sends ++ [.flush limit] → os = before ++ [o] →
      CutsQueue b items c c' sends before r →
      Along errand b items c requests os queue c'
        (.publishing number (firstFailure r o.guarded).toProcessor)
  | deciding : Along errand b items c requests os queue c' .deciding
  | sealing {limit : Duration} {r : ExportResult} :
      Along errand b items c requests os queue c' (.sealing limit r)
  | unwinding : Along errand b items c requests os queue c' .unwinding

section Steps

variable {errand : Errand} {b : Nat} {items queue : List α} {c c' : Counters}
  {requests : List (Request α)} {os : List Outcome} {p : Pass} {batch : List α} {t u : Batch α}
  {w w' : Worker α} {new : List (Note α)}

theorem Pass.Along.silent (along : Along errand b items c requests os queue c' w)
    (none : calls new = []) (none' : outcomes new = []) :
    Along errand b items c (requests ++ calls new) (os ++ outcomes new) queue c' w := by
  rw [none, none', List.append_nil, List.append_nil]
  exact along

/-- A pass that takes no more has its next part in hand, and the rest is in the queue. -/
theorem Pass.Stage.cuts (stage : p.Stage errand b items os)
    (all : batch ++ t.queue.items = items.drop (os.length * b)) (size : batch.length ≤ b)
    (config : t.config.maxBatchSize.toNat = b) (ends : p.Ends t batch.length) :
    batch = chunk b items os.length ∧ t.queue.items = items.drop ((os.length + 1) * b) := by
  have lengths := congrArg List.length all
  rw [List.length_append, List.length_drop] at lengths
  have full : batch.length = b ∨ t.queue.items = [] := by
    rcases ends with limit | empty
    · unfold Pass.limit at limit
      rcases stage.remaining with unbounded | bounded
      · rw [unbounded] at limit
        have limit : t.config.maxBatchSize.toNat ≤ batch.length := limit
        exact .inl (by omega)
      · rw [bounded] at limit
        have limit : min (items.length - os.length * b) t.config.maxBatchSize.toNat
          ≤ batch.length := limit
        by_cases short : t.queue.items.length = 0
        · exact .inr (List.eq_nil_of_length_eq_zero short)
        · exact .inl (by omega)
    · exact .inr empty
  have rest : (items.drop (os.length * b)).drop b = items.drop ((os.length + 1) * b) := by
    rw [List.drop_drop, Nat.succ_mul]
  rw [chunk, ← rest, ← all]
  rcases full with full | empty
  · subst full
    exact ⟨List.take_left.symm, List.drop_left.symm⟩
  · rw [empty, List.append_nil, List.take_of_length_le size, List.drop_of_length_le size]
    exact ⟨rfl, rfl⟩

/-- A pass that ends has handed over the whole queue. -/
theorem Pass.Stage.isOver (stage : p.Stage errand b items os) (pos : 0 < b)
    (all : t.queue.items = items.drop (os.length * b))
    (config : t.config.maxBatchSize.toNat = b) (ends : p.Ends t 0) :
    items.length ≤ os.length * b ∧ t.queue.items = [] := by
  have used : items.length ≤ os.length * b := by
    rcases ends with limit | empty
    · unfold Pass.limit at limit
      rcases stage.remaining with unbounded | bounded
      · rw [unbounded] at limit
        have limit : t.config.maxBatchSize.toNat ≤ 0 := limit
        omega
      · rw [bounded] at limit
        have limit : min (items.length - os.length * b) t.config.maxBatchSize.toNat ≤ 0 := limit
        omega
    · rw [empty] at all
      exact List.drop_eq_nil_iff.1 all.symm
  exact ⟨used, all.trans (List.drop_of_length_le used)⟩

theorem Pass.Stage.cutsQueue (stage : p.Stage errand b items os) (pos : 0 < b)
    (calls : requests = (chunks b items os.length).map .send)
    (isOver : items.length ≤ os.length * b) (counted : Counted c c' (answersOf b items os)) :
    CutsQueue b items c c' requests os p.result := by
  have all : chunks b items os.length = cutUp b items := by
    rw [cutUp, ← count_eq pos isOver stage.before]
  unfold answersOf at counted
  rw [all] at calls counted
  exact ⟨isCut_cutUp pos items, calls, all ▸ (length_chunks ..).symm, stage.result, counted⟩

theorem Pass.Answered.after {size : Nat}
    (answered : p.Answered errand b items requests queue size os) (o : Outcome) :
    (p.after size o.guarded).Stage errand b items (os ++ [o]) where
  errand := answered.stage.errand
  remaining := by
    have size := answered.size
    rw [length_chunk] at size
    rw [List.length_append, List.length_singleton, Nat.succ_mul]
    rcases answered.stage.remaining with unbounded | bounded
    · exact .inl (by simp [Pass.after, unbounded])
    · refine .inr ?_
      simp only [Pass.after, bounded, Option.map_some, Option.some.injEq]
      omega
  result := by
    rw [List.map_append, List.map_singleton, firstFailing_concat, ← answered.stage.result]
    rfl
  before := by
    have := answered.inside
    rw [List.length_append, List.length_singleton, Nat.succ_mul]
    omega

/-- The pass behind an answer that has been counted. -/
theorem Pass.Answered.collecting {size : Nat}
    (answered : p.Answered errand b items requests queue size os) (o : Outcome)
    (counted : Counted c c' (answersOf b items (os ++ [o]))) :
    Along errand b items c requests (os ++ [o]) queue c'
      (.collecting (p.after size o.guarded) []) := by
  refine .collecting (answered.after o) ?_ ?_ (Nat.zero_le b) counted
  · rw [List.length_append]
    exact answered.calls
  · rw [List.length_append]
    exact answered.queue

/-- A step of the worker in a pass that nobody disturbs. -/
theorem Pass.Along.step
    (along : Along errand b items c requests os t.queue.items t.counters.ofBatches w)
    (hm : w.Moves t u w' new) (inPass : w.exports = true) (pos : 0 < b)
    (config : t.config.maxBatchSize.toNat = b) :
    Along errand b items c (requests ++ calls new) (os ++ outcomes new) u.queue.items
      u.counters.ofBatches w' := by
  cases hm with
  | rearms =>
      cases along with
      | rearming calls answers queue grown =>
          exact Along.silent (.measuring calls answers queue grown) rfl rfl
  | measures =>
      cases along with
      | measuring calls answers queue grown =>
          subst answers
          have length : t.queue.length = items.length := congrArg List.length queue
          refine Along.silent (.collecting ⟨rfl, .inr ?_, rfl, ?_⟩ calls ?_ (Nat.zero_le b) grown)
            rfl rfl
          · simp [Pass.snapshot, length]
          · rw [List.length_nil, Nat.zero_mul]
            omega
          · simpa using queue
  | @collects p batch a rest inside front =>
      cases along with
      | collecting stage calls all size counted =>
          refine Along.silent (.collecting stage calls ?_ ?_ counted) rfl rfl
          · rw [front] at all
            rw [← all, List.append_assoc, List.singleton_append]
          · have limit := p.limit_le t.config
            rw [List.length_append, List.length_singleton]
            omega
  | @sends p batch some ends =>
      cases along with
      | collecting stage calls all size counted =>
          obtain ⟨rfl, rest⟩ := stage.cuts all size config ends
          have inside : os.length * b < items.length := by
            have := List.length_pos_iff.2 some
            rw [length_chunk] at this
            omega
          rw [show outcomes [Note.calls (.send (chunk b items os.length))] = [] from rfl,
            List.append_nil]
          refine .sending stage ?_ inside rest counted
          rw [chunks_succ, List.map_append, ← calls]
          rfl
  | endsRoutine => exact .deciding
  | @endsFlush p number limit errand_eq ends =>
      cases along with
      | collecting stage calls all size counted =>
          have isOver := (stage.isOver pos all config ends).1
          rw [show outcomes [Note.calls (α := α) (.flush limit)] = [] from rfl, List.append_nil]
          exact .flushing (stage.errand.symm.trans errand_eq) rfl
            (stage.cutsQueue pos calls isOver counted)
  | endsDrain => exact .sealing
  | @sent p batch o ok =>
      cases along with
      | sending stage sends inside rest counted =>
          rw [show calls [Note.ended (α := α) o] = [] from rfl, List.append_nil]
          exact .countingExported ⟨stage, sends, rfl, inside, rest⟩ rfl ok counted
  | @notSent p batch o e bad =>
      cases along with
      | sending stage sends inside rest counted =>
          rw [show calls [Note.ended (α := α) o] = [] from rfl, List.append_nil]
          exact .countingFailure ⟨stage, sends, rfl, inside, rest⟩ rfl bad counted
  | @countsExported p size =>
      cases along with
      | countingExported answered answers ok counted =>
          exact Along.silent (.countingBatch answered answers ok (counted.exportRecords size))
            rfl rfl
  | @countsBatch p size =>
      cases along with
      | @countingBatch _ _ before o answered answers ok grown =>
          subst answers
          refine Along.silent ?_ rfl rfl
          rw [← ok]
          refine answered.collecting o ?_
          rw [answersOf_concat, ok]
          rw [answered.size] at grown
          exact counted_passed grown.exportBatch
  | @countsFailure p size e =>
      cases along with
      | countingFailure answered answers bad counted =>
          exact Along.silent (.countingFailed answered answers bad counted.failCall) rfl rfl
  | @countsFailed p size e =>
      cases along with
      | @countingFailed _ _ _ before o answered answers bad grown =>
          refine Along.silent (.naming answered answers bad ?_) rfl rfl
          subst answers
          have grown := grown.failRecords size
          rw [answersOf_concat, bad]
          rw [answered.size] at grown ⊢
          exact counted_failed grown
  | @reportsFailure p size e =>
      cases along with
      | @naming _ _ _ before o answered answers bad counted =>
          subst answers
          refine Along.silent ?_ rfl rfl
          rw [← bad]
          exact answered.collecting o counted
  | panics => exact .unwinding
  | @flushed number limit r o =>
      cases along with
      | flushing errand_eq requests_eq cuts =>
          rw [show calls [Note.ended (α := α) o] = [] from rfl, List.append_nil]
          exact .publishing errand_eq requests_eq rfl cuts
  | _ => cases inPass

end Steps

/-! ## Whole passes -/

/-- The places at which a pass begins: over what is queued, or until the queue is empty. -/
inductive Pass.Begins : Errand → Worker α → Prop where
  | backlog (errand : Errand) : Begins errand (.rearming errand)
  | drain (limit : Duration) : Begins (.shutdown limit) (.collecting (.finalDrain limit) [])

/-- The pass has nothing more to hand over, and returns `r`. -/
def Returns (t : Batch α) (r : ExportResult) : Prop :=
  ∃ p, t.worker = .collecting p [] ∧ p.Ends t 0 ∧ p.result = r

theorem Sweep.Moves.ofBatches {s t : Batch α} {w : Sweep} {next : Option Sweep}
    {notes : List (Note α)} (h : w.Moves s t next notes) :
    t.counters.ofBatches = s.counters.ofBatches := by
  cases h <;> rfl

theorem Caller.Moves.ofBatches {s t : Batch α} {c c' : Caller α} {notes : List (Note α)}
    (h : c.Moves s t c' notes) : t.counters.ofBatches = s.counters.ofBatches := by
  cases h with
  | sweeps hw | endsSweep hw => exact hw.ofBatches
  | _ => rfl

section Runs

variable {s t : Batch α} {labels : List (Label α)} {notes : List (Note α)} {errand : Errand}

theorem Pass.Run.along (run : Pass.Run True s labels notes t) (begins : Begins errand s.worker) :
    Along errand s.config.maxBatchSize.toNat s.queue.items s.counters (calls notes)
      (outcomes notes) t.queue.items t.counters.ofBatches t.worker := by
  have pos := maxBatchSize_pos s.config
  induction run with
  | nil =>
      have none : Grown s.counters s.counters.ofBatches 0 0 0 0 := by
        constructor <;> simp [Counters.ofBatches]
      generalize s.worker = w at begins
      cases begins with
      | backlog => exact .rearming rfl rfl rfl none
      | drain limit =>
          refine .collecting ⟨rfl, .inl rfl, rfl, ?_⟩ rfl ?_ (Nat.zero_le _) none
          · simpa [outcomes] using Nat.add_pos_right _ pos
          · simp [outcomes]
  | @snoc t u labels notes new label run inPass stepped alone ih =>
      have config : t.config = s.config := run.run.config
      rw [calls_append, outcomes_append]
      cases moves_of_step stepped with
      | begins op => exact ih.silent rfl rfl
      | @caller i expired place place' v _ here hm =>
          have queue : v.queue = t.queue := alone trivial nofun
          have worker : v.worker = t.worker :=
            hm.worker.elim id fun woken => woken.trans (Worker.woken_of_exports inPass)
          have same := ih.silent hm.silent.1 hm.silent.2
          rw [← queue, ← hm.ofBatches, ← worker] at same
          exact same
      | worker _ _ hm =>
          have next := ih.step hm inPass pos (config ▸ rfl)
          exact next

/-- Whether the exporter flushes behind a pass. -/
def Worker.isFlushing : Worker α → Bool
  | .flushing _ _ _ => true
  | _ => false

/-- The worker stays in its pass until that returns, unless it breaks off. -/
theorem Worker.Moves.stays {u : Batch α} {w w' : Worker α} (h : w.Moves t u w' notes)
    (inPass : w.exports = true) (before : w.isFlushing = false) (calm : w' ≠ .unwinding) :
    (∃ p, w = .collecting p [] ∧ p.Ends t 0) ∨ w'.exports = true ∧ w'.isFlushing = false := by
  cases h with
  | endsRoutine _ ends | endsFlush _ ends | endsDrain _ ends => exact .inl ⟨_, rfl, ends⟩
  | rearms | measures | collects | sends | sent | notSent | countsExported | countsBatch |
    countsFailure | countsFailed | reportsFailure => exact .inr ⟨rfl, rfl⟩
  | panics => exact absurd rfl calm
  | flushed => cases before
  | _ => cases inPass

/-- The answers of the exporter so far are those of the script. -/
def Follows (script : Nat → Outcome) (notes : List (Note α)) : Prop :=
  outcomes notes = (List.range (outcomes notes).length).map script

theorem Follows.append {script : Nat → Outcome} {new : List (Note α)}
    (follows : Follows script notes)
    (next : outcomes new = [] ∨ outcomes new = [script (outcomes notes).length]) :
    Follows script (notes ++ new) := by
  unfold Follows
  rw [outcomes_append]
  rcases next with none | one
  · rw [none, List.append_nil]
    exact follows
  · rw [one, List.length_append, List.length_singleton, List.range_succ, List.map_append,
      ← follows]
    rfl

theorem Grown.of_ofBatches {c c' : Counters} {records batches lost failures : Nat}
    (grown : Grown c c'.ofBatches records batches lost failures) :
    Grown c c' records batches lost failures :=
  ⟨grown.exported, grown.batches, grown.recordsFailed, grown.failures⟩

theorem CutsQueue.of_ofBatches {b : Nat} {items : List α} {c c' : Counters}
    {requests : List (Request α)} {os : List Outcome} {r : ExportResult}
    (cuts : CutsQueue b items c c'.ofBatches requests os r) :
    CutsQueue b items c c' requests os r :=
  { cuts with counted := cuts.counted.of_ofBatches }

/-- A pass that returns, with nobody else at the queue. -/
theorem Pass.Run.returns {r : ExportResult} (run : Pass.Run True s labels notes t)
    (begins : Begins errand s.worker) (returns : t.Returns r) :
    t.queue.items = [] ∧ CutsQueue s.config.maxBatchSize.toNat s.queue.items s.counters t.counters
      (calls notes) (outcomes notes) r := by
  obtain ⟨p, here, ends, rfl⟩ := returns
  have along := run.along begins
  have config : t.config = s.config := run.run.config
  have pos := maxBatchSize_pos s.config
  rw [here] at along
  cases along with
  | collecting stage requests all size counted =>
      obtain ⟨used, empty⟩ := stage.isOver pos all (config ▸ rfl) ends
      exact ⟨empty, (stage.cutsQueue pos requests used counted).of_ofBatches⟩

/-- A flush has one more call behind those of its pass, and passes on the first failure. -/
theorem Pass.Run.publishes {number : Nat} {result : ProcessorResult}
    (run : Pass.Run True s labels notes t) (begins : Begins errand s.worker)
    (here : t.worker = .publishing number result) :
    ∃ limit sends os o r, errand = .flush number limit ∧ calls notes = sends ++ [.flush limit]
      ∧ outcomes notes = os ++ [o] ∧ CutsQueue s.config.maxBatchSize.toNat s.queue.items s.counters
        t.counters sends os r ∧ result = (firstFailure r o.guarded).toProcessor := by
  have along := run.along begins
  rw [here] at along
  cases along with
  | publishing same requests answers cuts =>
      exact ⟨_, _, _, _, _, same, requests, answers, cuts.of_ofBatches, rfl⟩

theorem Pass.Begins.exports {w : Worker α} (begins : Begins errand w) :
    w.exports = true ∧ w.isFlushing = false := by
  cases begins <;> exact ⟨rfl, rfl⟩

end Runs

end Batch

end Telemetry
