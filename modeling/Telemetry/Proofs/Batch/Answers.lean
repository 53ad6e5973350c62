import Mathlib.Data.List.Infix
import Telemetry.Proofs.Batch.Exports
import Telemetry.Proofs.Batch.Tasks

set_option autoImplicit false

/-! # Who answers a request to flush

Requests to flush are numbered, and the worker answers all requests up to the number that it read
when it took up its task. A request with a higher number has to wait for a later task. Such a task
is taken up after the request was registered, so it measures the queue behind everything that had
been accepted by then; and it answers when its calls on the exporter have ended. The shutdown
answers all requests in the same way. Only a panic answers before the work is done, and its answer
says so. -/

namespace Telemetry.Batch

variable {α : Type}

/-! ## Numbers -/

/-- Answers and tasks do not run ahead of the requests. -/
structure Numbered (s : Batch α) : Prop where
  answered : s.control.flushCompleted ≤ s.control.flushRequested
  served : ∀ number, s.worker.task? = some (.flush number) → number ≤ s.control.flushRequested

/-- A caller's step answers nothing. -/
theorem Caller.Moves.flushControl {s t : Batch α} {c c' : Caller α} {notes : List (Note α)}
    (h : c.Moves s t c' notes) :
    t.control.flushCompleted = s.control.flushCompleted ∧
      t.control.flushResult = s.control.flushResult ∧
      s.control.flushRequested ≤ t.control.flushRequested := by
  cases h with
  | sweeps hw | endsSweep hw => rw [hw.frame]; exact ⟨rfl, rfl, Nat.le_refl _⟩
  | requestsFlush => exact ⟨rfl, rfl, Nat.le_succ _⟩
  | _ => exact ⟨rfl, rfl, Nat.le_refl _⟩

/-- The steps of the worker that answer requests to flush: behind a flush, behind the shutdown and
in a panic. -/
theorem Worker.Moves.flushControl {s t : Batch α} {w w' : Worker α} {notes : List (Note α)}
    (h : w.Moves s t w' notes) :
    t.control.flushRequested = s.control.flushRequested ∧
      ((t.control.flushCompleted = s.control.flushCompleted ∧
          t.control.flushResult = s.control.flushResult) ∨
        (∃ r, w = .publishing t.control.flushCompleted r) ∨
        (∃ r closed, w = .concluding r closed ∧
          t.control.flushCompleted = s.control.flushRequested) ∨
        (t.control.flushCompleted = s.control.flushRequested ∧ w'.terminated = true ∧
          t.control.flushResult = .error .workerTerminated)) := by
  cases h with
  | sweeps hw | endsSweep hw | unwindSweeps hw | endsUnwindSweep hw =>
      rw [hw.frame]
      exact ⟨rfl, .inl ⟨rfl, rfl⟩⟩
  | publishes => exact ⟨rfl, .inr (.inl ⟨_, rfl⟩)⟩
  | concludes => exact ⟨rfl, .inr (.inr (.inl ⟨_, _, rfl, rfl⟩))⟩
  | unwinds => exact ⟨rfl, .inr (.inr (.inr ⟨rfl, rfl, rfl⟩))⟩
  | _ => exact ⟨rfl, .inl ⟨rfl, rfl⟩⟩

/-- The worker takes up the requests that there are when it decides. -/
theorem Worker.Moves.task_number {s t : Batch α} {w w' : Worker α} {notes : List (Note α)}
    {number : Nat} (h : w.Moves s t w' notes) (hw : w'.task? = some (.flush number)) :
    w.task? = some (.flush number) ∨
      (number = s.control.flushRequested ∧ s.control.flushCompleted < number) := by
  rcases h.task hw with same | ⟨rfl, -⟩
  · exact .inl same
  · cases h with
    | beginsFlush _ unanswered => cases hw; exact .inr ⟨rfl, unanswered⟩
    | beginsDrain | beginsRoutine | fallsAsleep => cases hw

theorem Numbered.step {s u : Batch α} {label : Label α} {notes : List (Note α)}
    (h : Numbered s) (hm : s.Moves label u notes) : Numbered u := by
  cases hm with
  | begins op => exact ⟨h.answered, h.served⟩
  | caller _ hm =>
      obtain ⟨completed, -, requested⟩ := hm.flushControl
      constructor
      · exact completed ▸ Nat.le_trans h.answered requested
      · intro number task
        have before := (hm.worker_eq Worker.task? Worker.task?_woken).symm.trans task
        exact Nat.le_trans (h.served number before) requested
  | @worker label t w _ _ _ hm =>
      obtain ⟨requested, answer⟩ := hm.flushControl
      constructor
      · show t.control.flushCompleted ≤ t.control.flushRequested
        rw [requested]
        rcases answer with ⟨same, -⟩ | ⟨r, hw⟩ | ⟨r, closed, -, all⟩ | ⟨all, -⟩
        · exact same ▸ h.answered
        · exact h.served _ (by rw [hw]; rfl)
        · exact Nat.le_of_eq all
        · exact Nat.le_of_eq all
      · intro number task
        show number ≤ t.control.flushRequested
        rw [requested]
        rcases hm.task_number task with same | ⟨now, -⟩
        · exact h.served number same
        · exact Nat.le_of_eq now

theorem Run.numbered {name : String} {config : BatchConfig} {s : Batch α}
    {labels : List (Label α)} {notes : List (Note α)}
    (run : Run (start name config) labels notes s) : Numbered s :=
  run.preserves Numbered.step ⟨Nat.le_refl 0, nofun⟩

/-! ## What is complete -/

/-- The first `m` accepted records have left without a discard, and those that were taken for a
batch are in calls that have ended. -/
structure Complete (m : Nat) (h : History α) (notes : List (Note α)) : Prop where
  settles : h.Settles m
  ended : h.rank m ≤ (batches (endedCalls notes)).flatten.length

theorem endedCalls_grows (notes new : List (Note α)) :
    endedCalls notes <+: endedCalls (notes ++ new) := by
  unfold endedCalls
  rw [calls_append, outcomes_append, List.length_append]
  exact ((List.prefix_append _ _).take _).trans (List.take_prefix_take_left (Nat.le_add_right _ _))

theorem batches_grows {requests requests' : List (Request α)} (h : requests <+: requests') :
    (batches requests).flatten <+: (batches requests').flatten :=
  (h.filterMap Request.batch?).flatten

/-- What is complete stays complete. -/
theorem Complete.append {m : Nat} {h : History α} {notes : List (Note α)}
    (complete : Complete m h notes) (h' : History α) (new : List (Note α)) :
    Complete m (h.followedBy h') (notes ++ new) where
  settles := complete.settles.followedBy h'
  ended := by
    have same : (h.followedBy h').rank m = h.rank m := by
      show ((h.fates ++ h'.fates).take m).count .batched = (h.fates.take m).count .batched
      rw [List.take_append_of_le_length complete.settles.1]
    rw [same]
    exact Nat.le_trans complete.ended (batches_grows (endedCalls_grows notes new)).length_le

/-- When the worker has nothing in its hand and waits for no call, what is settled is complete. -/
theorem Complete.of_settles {m : Nat} {h : History α} {notes : List (Note α)} {s : Batch α}
    (settles : h.Settles m) (recorded : Recorded h notes s) (hand : s.worker.hand = [])
    (ended : endedCalls notes = calls notes) : Complete m h notes where
  settles := settles
  ended := by
    have all := congrArg List.length recorded.batched
    rw [hand, List.append_nil, List.length_map, History.withFate,
      History.length_select .batched recorded.left] at all
    rw [ended, all]
    exact (List.take_sublist m h.fates).count_le .batched

/-- Every one of the first `m` accepted records was evicted or handed over in a call that has
ended. -/
theorem Complete.delivers {m : Nat} {h : History α} {notes : List (Note α)} {s : Batch α}
    (complete : Complete m h notes) (recorded : Recorded h notes s) {k i : Nat} {a : α}
    (hk : k < m) (accepted : h.accepted[k]? = some (i, a)) :
    h.Delivers (endedCalls notes) k a := by
  rcases complete.settles.fate hk with evicted | batched
  · exact .inl evicted
  · refine .inr ⟨batched, ?_⟩
    have before : h.rank k < h.rank m := by
      have next : (h.fates.take (k + 1)).count .batched = h.rank k + 1 := by
        rw [List.take_add_one, batched, List.count_append]
        rfl
      have within : (h.fates.take (k + 1)).count .batched ≤ h.rank m :=
        (List.take_prefix_take_left hk).sublist.count_le Fate.batched
      omega
    have lt : h.rank k < (batches (endedCalls notes)).flatten.length :=
      Nat.lt_of_lt_of_le before complete.ended
    have first : endedCalls notes <+: calls notes := List.take_prefix _ _
    obtain ⟨more, whole⟩ := batches_grows first
    have placed := recorded.batched_at accepted batched
    rw [← whole, List.append_assoc] at placed
    rwa [List.getElem?_append_left lt] at placed

/-! ## Answers -/

/-- What a task has done when it answers requests up to a number: a later flush of the exporter, or
the final drain and the shutdown of the exporter. -/
def Task.Answers (number : Nat) (w : Worker α) (ended : List (Request α)) : Task → Prop
  | .routine => False
  | .flush latest => number ≤ latest ∧ ∃ r ∈ ended, r.kind = .flush
  | .shutdown => w.drained = true ∧ ∃ r ∈ ended, r.kind = .close

/-- Within a run from `u` along some labels, the worker decides for a task, stays at it until the
task's calls on the exporter have ended, and then answers the request, which had no answer. -/
inductive Serves (number : Nat) (u : Batch α) (labels : List (Label α)) : Prop where
  | of_task {task : Task} {before pass after : List (Label α)} {reads answers : Label α}
      {v v' w w' : Batch α} {n nc new : List (Note α)} :
      labels = before ++ reads :: (pass ++ answers :: after) →
      Run u before n v → v.worker = .deciding → v.step reads = some (v', []) →
      Stays task v' pass nc w → task.Answers number w.worker (endedCalls nc) →
      w.step answers = some (w', new) → w.control.flushCompleted < number →
      number ≤ w'.control.flushCompleted → Serves number u labels

theorem Serves.append {number : Nat} {u : Batch α} {labels : List (Label α)}
    (h : Serves number u labels) (label : Label α) : Serves number u (labels ++ [label]) := by
  cases h with
  | @of_task task before pass after reads answers v v' w w' n nc new cut run decides reading stays
      done answering unanswered answered =>
      have longer : labels ++ [label] =
          before ++ reads :: (pass ++ answers :: (after ++ [label])) := by
        rw [cut, List.append_assoc, List.cons_append, List.append_assoc, List.cons_append]
      exact .of_task longer run decides reading stays done answering unanswered answered

/-- A state in which the request with a number has just been registered. -/
structure Registered (number : Nat) (u : Batch α) : Prop where
  unanswered : u.control.flushCompleted < number
  running : u.control.shutdownRequested = false
  fresh : ∀ n, number ≤ n → u.worker.task? ≠ some (.flush n)

theorem Registered.not_shutdown {number : Nat} {u : Batch α} (h : Registered number u)
    (sound : ShutsDown u) : u.worker.task? ≠ some .shutdown := by
  intro task
  have requested : u.control.shutdownRequested = true := by
    rcases Worker.final_of_shutdown task with drained | ⟨errand, he, final⟩
    · exact sound.drained drained
    · exact sound.errand errand he final
  exact absurd (h.running.symm.trans requested) nofun

/-- A task that was taken up since a state, and whose calls have ended: where it was taken up, the
call that it made, and that its pass reaches all that was accepted by that state. -/
theorem Run.task_done {name : String} {config : BatchConfig} {u y : Batch α}
    {l₀ labels : List (Label α)} {n₀ notes : List (Note α)}
    (run₀ : Run (start name config) l₀ n₀ u) (run : Run u labels notes y) {k : Task}
    (fresh : u.worker.task? ≠ some k) (task : y.worker.task? = some k)
    (idle : y.worker.pending? = none) {kind : Request.Kind}
    (called : y.worker.called? = some kind) :
    (∃ before reads pass n v v' nc, labels = before ++ reads :: pass ∧ Run u before n v ∧
      v.worker = .deciding ∧ v.step reads = some (v', []) ∧ Stays k v' pass nc y ∧
      ∃ r ∈ endedCalls nc, r.kind = kind) ∧
    Reaches ((start name config).history l₀).accepted.length
      ((start name config).history (l₀ ++ labels)) y.worker := by
  obtain ⟨before, reads, pass, n, v, v', nc, rfl, first, decides, reading, stays⟩ :=
    run.stays fresh task
  obtain ⟨unmeasured, uncalled, quiet⟩ := (moves_of_step reading).takes_up decides stays.task
  constructor
  · refine ⟨before, reads, pass, n, v, v', nc, rfl, first, decides, reading, stays, ?_⟩
    have ended := (stays.run.calls_eq quiet).1
    rw [idle, Option.toList_none, List.append_nil] at ended
    rw [← ended]
    exact stays.run.called uncalled called
  · have begun : Run (start name config) (l₀ ++ (before ++ [reads])) (n₀ ++ (n ++ [])) v' :=
      run₀.append (.snoc first reading)
    have reaches := begun.reaches unmeasured (run₀.accepted_length_le _) stays.run
    rwa [List.append_assoc, List.append_assoc, List.singleton_append] at reaches

/-- What the worker has settled when it waits for no call and has nothing in its hand. -/
theorem Run.complete {name : String} {config : BatchConfig} {m : Nat} {s : Batch α}
    {labels : List (Label α)} {notes : List (Note α)}
    (run : Run (start name config) labels notes s)
    (settles : ((start name config).history labels).Settles m)
    (idle : s.worker.pending? = none) (hand : s.worker.hand = []) :
    Complete m ((start name config).history labels) notes := by
  have ended := (run.calls_eq rfl).1
  rw [idle, Option.toList_none, List.append_nil] at ended
  exact .of_settles settles run.recorded hand ended.symm

/-- A request was served by a task that was taken up after it was registered, and the first `m`
accepted records are complete. -/
structure Released (number m : Nat) (u : Batch α) (labels : List (Label α)) (h : History α)
    (notes : List (Note α)) : Prop where
  complete : Complete m h notes
  serves : Serves number u labels

/-- A step in a run from `u`, itself reached from the start. -/
theorem Released.step {name : String} {config : BatchConfig} {number m : Nat} {u y z : Batch α}
    {l₀ labels : List (Label α)} {label : Label α} {n₀ notes new : List (Note α)}
    (h : Released number m u labels ((start name config).history (l₀ ++ labels)) (n₀ ++ notes))
    (run : Run (start name config) (l₀ ++ labels) (n₀ ++ notes) y)
    (step : y.step label = some (z, new)) :
    Released number m u (labels ++ [label])
      ((start name config).history (l₀ ++ (labels ++ [label]))) (n₀ ++ (notes ++ new)) where
  complete := by
    rw [← List.append_assoc, ← List.append_assoc, history_snoc run step]
    exact h.complete.append _ _
  serves := h.serves.append label

/-- The answer of a task that was taken up after the request was registered: what the task has to
have settled by then is all that is left to show. -/
theorem Run.released {name : String} {config : BatchConfig} {number : Nat} {u y z : Batch α}
    {l₀ labels : List (Label α)} {label : Label α} {n₀ notes new : List (Note α)}
    (run₀ : Run (start name config) l₀ n₀ u) (run : Run u labels notes y)
    (step : y.step label = some (z, new)) {k : Task} (fresh : u.worker.task? ≠ some k)
    (task : y.worker.task? = some k) (idle : y.worker.pending? = none)
    (hand : y.worker.hand = []) {kind : Request.Kind} (called : y.worker.called? = some kind)
    (answers : ∀ ended, (∃ r ∈ ended, r.kind = kind) → k.Answers number y.worker ended)
    (settles : Reaches ((start name config).history l₀).accepted.length
        ((start name config).history (l₀ ++ labels)) y.worker →
      ((start name config).history (l₀ ++ labels)).Settles
        ((start name config).history l₀).accepted.length)
    (unanswered : y.control.flushCompleted < number)
    (answered : number ≤ z.control.flushCompleted) :
    Released number ((start name config).history l₀).accepted.length u (labels ++ [label])
      ((start name config).history (l₀ ++ (labels ++ [label]))) (n₀ ++ (notes ++ new)) := by
  obtain ⟨⟨before, reads, pass, n, v, v', nc, cut, first, decides, reading, stays, ended⟩,
    reaches⟩ := run₀.task_done run fresh task idle called
  have whole := run₀.append run
  constructor
  case complete =>
    rw [← List.append_assoc, ← List.append_assoc, history_snoc whole step]
    exact (whole.complete (settles reaches) idle hand).append _ _
  case serves =>
    have longer : labels ++ [label] = before ++ reads :: (pass ++ label :: []) := by
      rw [cut, List.append_assoc, List.cons_append]
    exact .of_task longer first decides reading stays (answers _ ended) step unanswered answered

/-- An answer to a registered request comes from a task that was taken up after the request was
registered, and then all that had been accepted by that time is complete; or it comes from a
panic, and stays the last answer. -/
theorem Run.answered {name : String} {config : BatchConfig} {number : Nat} {u z : Batch α}
    {l₀ labels : List (Label α)} {n₀ notes : List (Note α)}
    (run₀ : Run (start name config) l₀ n₀ u) (reg : Registered number u)
    (run : Run u labels notes z) (answered : number ≤ z.control.flushCompleted) :
    Released number ((start name config).history l₀).accepted.length u labels
        ((start name config).history (l₀ ++ labels)) (n₀ ++ notes) ∨
      (z.control.flushResult = .error .workerTerminated ∧ z.worker.terminated = true) := by
  induction run with
  | nil => exact absurd answered (Nat.not_le.2 reg.unanswered)
  | @snoc y z labels notes new label run step ih =>
      have whole := run₀.append run
      have drains := run₀.drains reg.running run
      -- Where the step leaves the answers alone, what held before still holds.
      have keep (before : number ≤ y.control.flushCompleted)
          (result : z.control.flushResult = y.control.flushResult)
          (terminated : y.worker.terminated = true → z.worker.terminated = true) :
          Released number ((start name config).history l₀).accepted.length u (labels ++ [label])
              ((start name config).history (l₀ ++ (labels ++ [label]))) (n₀ ++ (notes ++ new)) ∨
            (z.control.flushResult = .error .workerTerminated ∧ z.worker.terminated = true) := by
        rcases ih before with released | ⟨panicked, ends⟩
        · exact .inl (released.step whole step)
        · exact .inr ⟨result.trans panicked, terminated ends⟩
      -- A task that answers has not been ended by a panic.
      have again (before : number ≤ y.control.flushCompleted)
          (running : y.worker.terminated = false) :
          Released number ((start name config).history l₀).accepted.length u (labels ++ [label])
            ((start name config).history (l₀ ++ (labels ++ [label]))) (n₀ ++ (notes ++ new)) := by
        rcases ih before with released | ⟨-, ends⟩
        · exact released.step whole step
        · exact absurd (running.symm.trans ends) nofun
      cases moves_of_step step with
      | begins op => exact keep answered rfl id
      | caller _ hm =>
          obtain ⟨completed, result, -⟩ := hm.flushControl
          refine keep (completed ▸ answered) result fun ends => ?_
          exact (hm.worker_eq Worker.terminated Worker.terminated_woken).trans ends
      | @worker label t w _ _ _ hm =>
          have now : number ≤ t.control.flushCompleted := answered
          obtain ⟨-, ⟨completed, result⟩ | ⟨r, hw⟩ | ⟨r, closed, hw, -⟩ | ⟨-, ends, result⟩⟩ :=
            hm.flushControl
          · exact keep (completed ▸ now) result hm.terminated_stays
          · rcases Nat.lt_or_ge y.control.flushCompleted number with unanswered | before
            · refine .inl (run₀.released run step (reg.fresh _ now) (by rw [hw]; rfl)
                (by rw [hw]; rfl) (by rw [hw]; rfl) (by rw [hw]; rfl) (fun _ h => ⟨now, h⟩)
                (fun reaches => ⟨?_, drains.kept (by rw [hw]; rfl)⟩) unanswered answered)
              exact reaches 0 (by rw [hw]; rfl)
            · exact .inl (again before (by rw [hw]; rfl))
          · rcases Nat.lt_or_ge y.control.flushCompleted number with unanswered | before
            · have isOver : y.worker.drained = true := by rw [hw]; rfl
              have sound := run₀.shutsDown (shutsDown_start name config)
              exact .inl (run₀.released run step (reg.not_shutdown sound) (by rw [hw]; rfl)
                (by rw [hw]; rfl) (by rw [hw]; rfl) (by rw [hw]; rfl) (fun _ h => ⟨isOver, h⟩)
                (fun _ => drains.settles isOver (by rw [hw]; rfl)) unanswered answered)
            · exact .inl (again before (by rw [hw]; rfl))
          · exact .inr ⟨result, ends⟩

end Telemetry.Batch
