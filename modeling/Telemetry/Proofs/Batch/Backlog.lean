import Telemetry.Proofs.Batch.Exports
import Telemetry.Proofs.Batch.Leftovers

set_option autoImplicit false

/-! # A pass comes to its end

A pass over what is queued takes a bounded number of the worker's steps, whatever other threads do
with the queue in the meantime: it hands over no more records than it has counted at its start, and
each batch has at least one. The final drain has no bound of its own; it ends as the queue gets
shorter.

`Worker.ahead` counts what the worker has still to do. Each of its steps makes that less, and no
step of another thread changes it. -/

namespace Telemetry.Batch

variable {α : Type}

/-! ## Runs within a pass -/

/-- Whether the worker is in a pass, or in the exporter's flush behind it. -/
def Worker.exports : Worker α → Bool
  | .rearming _ | .measuring _ | .collecting _ _ | .sending _ _ => true
  | .countingExported _ _ | .countingBatch _ _ => true
  | .countingFailure _ _ _ | .countingFailed _ _ _ | .naming _ _ _ => true
  | .flushing _ _ _ => true
  | _ => false

@[simp] theorem Worker.exports_woken (w : Worker α) : w.woken.exports = w.exports := by
  cases w <;> rfl

/-- A waiting worker is not in a pass, so nobody wakes one that is. -/
theorem Worker.woken_of_exports {w : Worker α} (h : w.exports = true) : w.woken = w := by
  cases w with
  | asleep => cases h
  | _ => rfl

/-- A run in which the worker is in one pass, up to the end of the pass. If it is `alone`, no other
thread changes the queue. -/
inductive Pass.Run (alone : Prop) :
    Batch α → List (Label α) → List (Note α) → Batch α → Prop where
  | nil (s : Batch α) : Pass.Run alone s [] [] s
  | snoc {s t u : Batch α} {labels : List (Label α)} {notes new : List (Note α)}
      {label : Label α} :
      Pass.Run alone s labels notes t → t.worker.exports = true →
      t.step label = some (u, new) → (alone → label.caller? ≠ none → u.queue = t.queue) →
      Pass.Run alone s (labels ++ [label]) (notes ++ new) u

/-- Whether a step is the worker's, or the exporter's for it. -/
def Label.isWorker : Label α → Bool
  | .worker _ | .ended _ | .named _ => true
  | .begins _ | .caller _ _ => false

/-- How many steps of the worker there are. -/
def workerSteps (labels : List (Label α)) : Nat :=
  labels.countP Label.isWorker

/-! ## What is ahead of the worker -/

/-- How many records a pass may still take for its batches, with `hand` of them in the worker's hand
and `q` in the queue. -/
def Pass.ahead (p : Pass) (q hand : Nat) : Nat :=
  match p.remaining with
  | some n => n - hand
  | none => q

@[simp] theorem Pass.ahead_after (p : Pass) (q size : Nat) (r : ExportResult) :
    (p.after size r).ahead q 0 = p.ahead q size := by
  unfold Pass.ahead Pass.after
  cases p.remaining <;> rfl

/-- A bound on the steps that the worker has ahead of it in its pass, if `q` records are queued. -/
def Worker.ahead (q : Nat) : Worker α → Nat
  | .rearming _ => 8 * q + 4
  | .measuring _ => 8 * q + 3
  | .collecting p batch => 8 * p.ahead q batch.length + 7 * batch.length + 2
  | .sending p batch => 8 * p.ahead q batch.length + 8
  | .countingExported p size => 8 * p.ahead q size + 6
  | .countingBatch p size => 8 * p.ahead q size + 5
  | .countingFailure p size _ => 8 * p.ahead q size + 6
  | .countingFailed p size _ => 8 * p.ahead q size + 5
  | .naming p size _ => 8 * p.ahead q size + 4
  | .flushing _ _ _ => 1
  | _ => 0

@[simp] theorem Worker.ahead_woken (q : Nat) (w : Worker α) : w.woken.ahead q = w.ahead q := by
  cases w <;> rfl

theorem Pass.limit_le_remaining {p : Pass} {n : Nat} (h : p.remaining = some n)
    (config : BatchConfig) : p.limit config ≤ n := by
  rw [Pass.limit, h]
  exact Nat.min_le_left ..

theorem Pass.ahead_mono (p : Pass) {q q' : Nat} (shorter : q' ≤ q) (hand : Nat) :
    p.ahead q' hand ≤ p.ahead q hand := by
  unfold Pass.ahead
  cases p.remaining with
  | some n => exact Nat.le_refl _
  | none => exact shorter

/-- A step of the worker gets it on. A pass with a bound needs no more of the queue than that it was
not longer than `q` at the start; one without gets on as the queue gets shorter. -/
theorem Worker.Moves.ahead_lt {s t : Batch α} {w w' : Worker α} {notes : List (Note α)} {q q' : Nat}
    (h : w.Moves s t w' notes) (inPass : w.exports = true) (room : s.queue.length ≤ q)
    (shorter : q' ≤ q)
    (unbounded : ∀ p, w.pass? = some p → p.remaining = none →
      q = s.queue.length ∧ q' = t.queue.length) :
    w'.ahead q' < w.ahead q := by
  cases h with
  | rearms =>
      simp only [ahead]
      omega
  | measures =>
      simp only [ahead, Pass.snapshot, Pass.ahead, List.length_nil]
      omega
  | @collects p batch a rest inside items =>
      have less : p.ahead q' (batch.length + 1) < p.ahead q batch.length := by
        have bound := unbounded p rfl
        unfold Pass.ahead
        cases remaining : p.remaining with
        | some n =>
            have := Pass.limit_le_remaining remaining s.config
            show n - (batch.length + 1) < n - batch.length
            omega
        | none =>
            obtain ⟨rfl, rfl⟩ := bound remaining
            show rest.length < s.queue.items.length
            rw [items, List.length_cons]
            exact Nat.lt_succ_self _
      simp only [ahead, List.length_append, List.length_singleton]
      omega
  | @sends p batch some =>
      have := p.ahead_mono shorter batch.length
      have := List.length_pos_iff.2 some
      simp only [ahead]
      omega
  | @sent p batch | @notSent p batch =>
      have := p.ahead_mono shorter batch.length
      simp only [ahead]
      omega
  | @countsExported p size | @countsFailure p size | @countsFailed p size =>
      have := p.ahead_mono shorter size
      simp only [ahead]
      omega
  | @countsBatch p size | @reportsFailure p size =>
      have := p.ahead_mono shorter size
      simp only [ahead, List.length_nil, Pass.ahead_after]
      omega
  | endsRoutine | endsFlush | endsDrain | panics | flushed =>
      simp only [ahead]
      omega
  | _ => cases inPass

section Steps

variable {s : Batch α} {w w' : Worker α} {m : Move α (Worker α)} {o : Outcome}

end Steps

/-! ## Passes among other threads -/

/-- How many records a pass may still hand over, if it has counted at most `q` of them. -/
def Worker.due (q : Nat) : Worker α → Nat
  | .rearming _ | .measuring _ => q
  | .collecting p _ => p.ahead q 0
  | .sending p batch => p.ahead q batch.length
  | .countingExported p size | .countingBatch p size => p.ahead q size
  | .countingFailure p size _ | .countingFailed p size _ | .naming p size _ => p.ahead q size
  | _ => 0

@[simp] theorem Worker.due_woken (q : Nat) (w : Worker α) : w.woken.due q = w.due q := by
  cases w <;> rfl

@[simp] theorem Worker.pass?_woken (w : Worker α) : w.woken.pass? = w.pass? := by
  cases w <;> rfl

/-- A pass with a bound, behind these steps, while the queue holds at most `m` records: it takes at
most `steps` steps of the worker and hands over at most `records` records. -/
structure Pass.Within (m steps records : Nat) (labels : List (Label α)) (notes : List (Note α))
    (t : Batch α) : Prop where
  room : t.queue.length ≤ m
  capacity : t.queue.capacity ≤ m
  steps : workerSteps labels + t.worker.ahead m ≤ steps
  records : (batches (calls notes)).flatten.length + t.worker.due m ≤ records
  bounded : ∀ p, t.worker.pass? = some p → ∃ n, p.remaining = some n ∧ t.worker.hand.length ≤ n

section Within

variable {m steps records : Nat} {labels : List (Label α)} {notes new : List (Note α)}
  {t u : Batch α} {label : Label α}

/-- A step that leaves the worker and the exporter alone. -/
theorem Pass.Within.silent (within : Pass.Within m steps records labels notes t)
    (theirs : label.isWorker = false) (none : calls new = []) (room : u.queue.length ≤ m)
    (capacity : u.queue.capacity ≤ m)
    (same : ∀ {β : Type} (f : Worker α → β), (∀ w, f w.woken = f w) → f u.worker = f t.worker) :
    Pass.Within m steps records (labels ++ [label]) (notes ++ new) u where
  room := room
  capacity := capacity
  steps := by
    rw [same (Worker.ahead m) (Worker.ahead_woken m)]
    have := within.steps
    simpa [workerSteps, theirs] using this
  records := by
    rw [same (Worker.due m) (Worker.due_woken m), calls_append, none, List.append_nil]
    exact within.records
  bounded := by
    rw [same Worker.pass? Worker.pass?_woken, same Worker.hand Worker.hand_woken]
    exact within.bounded

theorem Worker.Moves.due_le {w w' : Worker α} (h : w.Moves t u w' new) (inPass : w.exports = true)
    (room : t.queue.length ≤ m)
    (bounded : ∀ p, w.pass? = some p → ∃ n, p.remaining = some n ∧ w.hand.length ≤ n) :
    (batches (calls new)).flatten.length + w'.due m ≤ w.due m := by
  cases h with
  | rearms => exact Nat.le_of_eq (Nat.zero_add _)
  | measures =>
      show 0 + (t.queue.length - 0) ≤ m
      omega
  | collects | sent | notSent | countsExported | countsFailure | countsFailed =>
      exact Nat.le_of_eq (Nat.zero_add _)
  | countsBatch | reportsFailure =>
      rw [due, Pass.ahead_after]
      exact Nat.le_of_eq (Nat.zero_add _)
  | @sends p batch some isOver =>
      obtain ⟨n, remaining, enough⟩ := bounded p rfl
      have enough : batch.length ≤ n := enough
      simp only [calls, batches, due, Pass.ahead, remaining, List.filterMap_cons,
        List.filterMap_nil, Note.request?, Request.batch?, List.flatten_cons, List.flatten_nil,
        List.append_nil]
      omega
  | endsRoutine | endsFlush | endsDrain | panics | flushed => exact Nat.zero_le _
  | _ => cases inPass

theorem Worker.Moves.bounded {w w' : Worker α} (h : w.Moves t u w' new) (inPass : w.exports = true)
    (bounded : ∀ p, w.pass? = some p → ∃ n, p.remaining = some n ∧ w.hand.length ≤ n) :
    ∀ p, w'.pass? = some p → ∃ n, p.remaining = some n ∧ w'.hand.length ≤ n := by
  intro p' here
  cases h with
  | measures =>
      cases here
      exact ⟨_, rfl, Nat.zero_le _⟩
  | @collects p batch a rest inside items =>
      cases here
      obtain ⟨n, remaining, -⟩ := bounded _ rfl
      have := Pass.limit_le_remaining remaining t.config
      refine ⟨n, remaining, ?_⟩
      simp only [Worker.hand, List.length_append, List.length_singleton]
      omega
  | @sends p | @sent p | @notSent p | @countsExported p | @countsFailure p | @countsFailed p =>
      cases here
      obtain ⟨n, remaining, -⟩ := bounded _ rfl
      exact ⟨n, remaining, Nat.zero_le _⟩
  | @countsBatch p size | @reportsFailure p size =>
      cases here
      obtain ⟨n, remaining, -⟩ := bounded _ rfl
      exact ⟨n - size, by simp [Pass.after, remaining], Nat.zero_le _⟩
  | rearms | endsRoutine | endsFlush | endsDrain | panics | flushed => cases here
  | _ => cases inPass

theorem Pass.Within.step (within : Pass.Within m steps records labels notes t)
    (inPass : t.worker.exports = true) (moves : t.Moves label u new) :
    Pass.Within m steps records (labels ++ [label])
      (notes ++ new) u := by
  cases moves with
  | begins op =>
      exact within.silent rfl rfl within.room within.capacity fun _ _ => rfl
  | caller _ hm =>
      refine within.silent rfl hm.silent.1 ?_ ?_ fun f woken => hm.worker_eq f woken
      · rcases hm.length_le with shorter | ⟨room, -⟩
        · exact Nat.le_trans shorter within.room
        · exact Nat.le_trans room within.capacity
      · exact hm.frame.2.1 ▸ within.capacity
  | worker other begins hm =>
      have mine : label.isWorker = true := by
        cases label with
        | begins op => exact absurd rfl (begins op)
        | caller => cases other
        | _ => rfl
      refine ⟨Nat.le_trans hm.length_le within.room, hm.frame.2.1 ▸ within.capacity, ?_, ?_,
        hm.bounded inPass within.bounded⟩
      · have gets_on := hm.ahead_lt inPass within.room (Nat.le_refl m) fun p here none => by
          obtain ⟨n, remaining, -⟩ := within.bounded p here
          rw [none] at remaining
          cases remaining
        have := within.steps
        simp only [workerSteps, List.countP_append, List.countP_singleton, mine, if_true] at this ⊢
        omega
      · have := hm.due_le inPass within.room within.bounded
        have := within.records
        simp only [calls_append, batches_append, List.flatten_append, List.length_append]
        omega

end Within

section Runs

variable {alone : Prop} {s t : Batch α} {labels : List (Label α)} {notes : List (Note α)}
  {errand : Errand} {n : Nat}

theorem Pass.Run.run (run : Pass.Run alone s labels notes t) : Batch.Run s labels notes t := by
  induction run with
  | nil => exact .nil _
  | snoc _ _ stepped _ ih => exact .snoc ih stepped

theorem Pass.Within.run {m steps records : Nat} (within : Pass.Within m steps records [] [] s)
    (run : Pass.Run alone s labels notes t) : Pass.Within m steps records labels notes t := by
  induction run with
  | nil => exact within
  | snoc _ inPass stepped _ ih => exact ih.step inPass (moves_of_step stepped)

/-- No batch of a pass is empty or too long. -/
theorem Pass.Run.sizes (run : Pass.Run alone s labels notes t) (empty : s.worker.hand = []) :
    ∀ batch ∈ batches (calls notes),
      1 ≤ batch.length ∧ batch.length ≤ s.config.maxBatchSize.toNat := by
  have disciplined : Disciplined [] s := ⟨.inl nofun, nofun, by simp [empty]⟩
  have config : t.config = s.config := run.run.config
  exact config ▸ (disciplined.run run.run).sizes

end Runs

end Telemetry.Batch
