import Telemetry.Proofs.Batch.Drain

set_option autoImplicit false

/-! # Tasks of the worker

The worker takes up one task after the other: a routine pass, the requests to flush up to a number
or the shutdown. It decides for a task at one place only, and there it reads which requests there
are. So a task that was not under way at some time was taken up later, and the requests it serves
were read later.

A pass for requests to flush exports what was queued when it read the length of the queue; what
leaves the queue meanwhile by another way only brings the end nearer. -/

namespace Telemetry.Batch

variable {α : Type}

/-- What the worker is at. -/
inductive Task where
  | routine
  /-- The requests to flush up to a number. -/
  | flush (number : Nat)
  | shutdown
deriving DecidableEq

/-- The task that an errand belongs to. -/
def Errand.task : Errand → Task
  | .routine => .routine
  | .flush number _ => .flush number
  | .shutdown _ => .shutdown

/-- The task that the worker is at, from its decision to its answer. -/
def Worker.task? : Worker α → Option Task
  | .rearming errand | .measuring errand => some errand.task
  | .collecting p _ | .sending p _ | .countingExported p _ | .countingBatch p _ =>
    some p.errand.task
  | .countingFailure p _ _ | .countingFailed p _ _ | .naming p _ _ => some p.errand.task
  | .flushing number _ _ | .publishing number _ => some (.flush number)
  | .sealing _ _ | .sweeping _ _ _ | .closing _ _ | .namingClose _ _ | .concluding _ _ =>
    some .shutdown
  | _ => none

theorem Worker.task?_woken (w : Worker α) : w.woken.task? = w.task? := by
  cases w <;> rfl

theorem Errand.isFinal_of_task {errand : Errand} (h : errand.task = .shutdown) :
    errand.isFinal = true := by
  cases errand with
  | shutdown => rfl
  | _ => cases h

/-- The shutdown is the final drain and what comes behind it. -/
theorem Worker.final_of_shutdown {w : Worker α} (h : w.task? = some .shutdown) :
    w.drained = true ∨ ∃ errand, w.errand? = some errand ∧ errand.isFinal = true := by
  cases w with
  | sealing | sweeping | closing | namingClose | concluding => exact .inl rfl
  | rearming errand | measuring errand =>
      exact .inr ⟨errand, rfl, Errand.isFinal_of_task (Option.some.inj h)⟩
  | collecting p | sending p | countingExported p | countingBatch p =>
      exact .inr ⟨p.errand, rfl, Errand.isFinal_of_task (Option.some.inj h)⟩
  | countingFailure p | countingFailed p | naming p =>
      exact .inr ⟨p.errand, rfl, Errand.isFinal_of_task (Option.some.inj h)⟩
  | _ => cases h

/-- The worker takes up a task only where it decides. -/
theorem Worker.Moves.task {s t : Batch α} {w w' : Worker α} {notes : List (Note α)} {k : Task}
    (h : w.Moves s t w' notes) (hw : w'.task? = some k) :
    w.task? = some k ∨ (w = .deciding ∧ notes = []) := by
  cases h with
  | beginsDrain | beginsFlush | beginsRoutine => exact .inr ⟨rfl, rfl⟩
  | endsFlush errand | endsDrain errand =>
      refine .inl ?_
      rw [← hw]
      show some (Errand.task _) = _
      rw [errand]
      rfl
  | fallsAsleep | wakes | endsRoutine | panics | publishes | publishesNothing | announces |
    panicsClosing | concludes | announcesEnd | reports | unwinds | unwindSeals | unwindSweeps |
    endsUnwindSweep | unwindAnnounces => cases hw
  | _ => exact .inl hw

theorem Moves.task {s u : Batch α} {label : Label α} {notes : List (Note α)} {k : Task}
    (h : s.Moves label u notes) (hu : u.worker.task? = some k) :
    s.worker.task? = some k ∨ (s.worker = .deciding ∧ notes = []) := by
  cases h with
  | begins op => exact .inl hu
  | caller _ hm =>
      refine .inl ?_
      rw [← hm.worker_eq Worker.task? Worker.task?_woken]
      exact hu
  | worker _ _ hm => exact hm.task hu

/-- A run during which the worker stays at one task. -/
inductive Stays (k : Task) (s : Batch α) :
    List (Label α) → List (Note α) → Batch α → Prop where
  | nil : s.worker.task? = some k → Stays k s [] [] s
  | snoc {t u : Batch α} {labels : List (Label α)} {notes new : List (Note α)}
      {label : Label α} :
      Stays k s labels notes t → t.step label = some (u, new) → u.worker.task? = some k →
      Stays k s (labels ++ [label]) (notes ++ new) u

theorem Stays.run {k : Task} {s t : Batch α} {labels : List (Label α)} {notes : List (Note α)}
    (h : Stays k s labels notes t) : Run s labels notes t := by
  induction h with
  | nil _ => exact .nil s
  | snoc _ step _ ih => exact .snoc ih step

/-- A task that was not under way at the beginning of a run was taken up in it, and the worker has
stayed at it since. -/
theorem Run.stays {k : Task} {u z : Batch α} {labels : List (Label α)} {notes : List (Note α)}
    (run : Run u labels notes z) (fresh : u.worker.task? ≠ some k)
    (now : z.worker.task? = some k) :
    ∃ before reads pass n v v' nc, labels = before ++ reads :: pass ∧ Run u before n v ∧
      v.worker = .deciding ∧ v.step reads = some (v', []) ∧ Stays k v' pass nc z := by
  induction run with
  | nil => exact absurd now fresh
  | @snoc y z labels notes new label run step ih =>
      -- The worker was at the task before the step, or it has just taken the task up.
      rcases (moves_of_step step).task now with same | ⟨decides, rfl⟩
      · obtain ⟨before, reads, pass, n, v, v', nc, rfl, first, decides, reading, stays⟩ := ih same
        refine ⟨before, reads, pass ++ [label], n, v, v', nc ++ new, ?_, first, decides, reading,
          .snoc stays step now⟩
        rw [List.append_assoc, List.cons_append]
      · exact ⟨labels, label, [], notes, y, z, [], rfl, run, decides, step, .nil now⟩

/-! ## How far a pass is -/

/-- How many records a pass may still leave in the queue before it is over; `none` if it is not
known yet or has no bound. -/
def Worker.left? : Worker α → Option Nat
  | .collecting p batch | .sending p batch => p.remaining.map (· - batch.length)
  | .countingExported p size | .countingBatch p size => p.remaining.map (· - size)
  | .countingFailure p size _ | .countingFailed p size _ | .naming p size _ =>
    p.remaining.map (· - size)
  | .flushing _ _ _ | .publishing _ _ => some 0
  | _ => none

theorem Worker.left?_woken (w : Worker α) : w.woken.left? = w.left? := by
  cases w <;> rfl

/-- What the pass has left to take reaches to the end of the first `m` accepted records. -/
def Reaches (m : Nat) (h : History α) (w : Worker α) : Prop :=
  ∀ left, w.left? = some left → m ≤ h.fates.length + left

theorem Reaches.mono {m : Nat} {h h' : History α} {w w' : Worker α} (reaches : Reaches m h w)
    (more : h.fates.length ≤ h'.fates.length) (same : w'.left? = w.left?) : Reaches m h' w' := by
  intro left hw
  have before := reaches left (same ▸ hw)
  omega

theorem Reaches.none {m : Nat} {h : History α} {w : Worker α} (hw : w.left? = none) :
    Reaches m h w := by
  intro left some
  rw [hw] at some
  cases some

theorem Reaches.of_settled {m : Nat} {h : History α} {w : Worker α} (bound : m ≤ h.fates.length) :
    Reaches m h w := by
  intro left _
  omega

/-- A step of the worker takes a record for the pass, or finds that the pass is over. -/
theorem Worker.Moves.reaches {m : Nat} {h h' : History α} {s t : Batch α} {w w' : Worker α}
    {notes : List (Note α)} (hm : w.Moves s t w' notes) (reaches : Reaches m h w)
    (passes : Passes w) (bound : m ≤ h.fates.length + s.queue.length)
    (grows : h.fates.length ≤ h'.fates.length)
    (moves : h.fates.length + s.queue.length ≤ h'.fates.length + t.queue.length) :
    Reaches m h' w' := by
  cases hm with
  | measures =>
      intro left hl
      obtain rfl : s.queue.length = left := Option.some.inj hl
      omega
  | @collects p batch a rest room items =>
      have one := Queue.length_of_cons items
      have now : h.fates.length + s.queue.length ≤ h'.fates.length + rest.length := moves
      intro left hl
      cases hr : p.remaining with
      | none => rw [Worker.left?, hr] at hl; cases hl
      | some n =>
          have before := reaches (n - batch.length) (by rw [Worker.left?, hr]; rfl)
          rw [Pass.limit, hr] at room
          have within : batch.length < n := Nat.lt_of_lt_of_le room (Nat.min_le_left _ _)
          rw [Worker.left?, hr, List.length_append] at hl
          obtain rfl : n - (batch.length + 1) = left := Option.some.inj hl
          omega
  | @endsFlush p number limit errand isOver =>
      -- The pass is over because it has taken all it may take, or because nothing is left.
      refine .of_settled ?_
      cases hr : p.remaining with
      | none =>
          have final := (passes.bound p rfl).1 hr
          rw [errand] at final
          cases final
      | some n =>
          have before := reaches n (by rw [Worker.left?, hr]; rfl)
          rcases isOver with full | empty
          · have pos := maxBatchSize_pos s.config
            rw [Pass.limit, hr] at full
            have small : min n s.config.maxBatchSize.toNat ≤ 0 := full
            omega
          · have none := Queue.length_of_nil empty
            omega
  | countsBatch | reportsFailure =>
      refine reaches.mono grows ?_
      simp [Worker.left?, Pass.after, Function.comp_def]
  | sends | sent | notSent | countsExported | countsFailure | countsFailed | flushed =>
      exact reaches.mono grows rfl
  | _ => exact .none rfl

theorem Reaches.step {m : Nat} {h : History α} {notes new : List (Note α)} {s u : Batch α}
    {label : Label α} (reaches : Reaches m h s.worker) (rec : Recorded h notes s)
    (passes : Passes s.worker) (bound : m ≤ h.accepted.length) (hm : s.Moves label u new) :
    Reaches m (h.followedBy (s.record label u)) u.worker := by
  have after := (rec.step hm).length_eq
  have before := rec.length_eq
  have grows : h.fates.length ≤ (h.followedBy (s.record label u)).fates.length :=
    List.length_append ▸ Nat.le_add_right _ _
  have accepts : h.accepted.length ≤ (h.followedBy (s.record label u)).accepted.length :=
    List.length_append ▸ Nat.le_add_right _ _
  generalize h.followedBy (s.record label u) = h' at after grows accepts ⊢
  cases hm with
  | begins op => exact reaches.mono grows rfl
  | caller _ hm => exact reaches.mono grows (hm.worker_eq Worker.left? Worker.left?_woken)
  | @worker label t w _ _ _ hm =>
      have moves : h.fates.length + s.queue.length ≤ h'.fates.length + t.queue.length := by
        rw [before]
        exact Nat.le_trans accepts (Nat.le_of_eq after.symm)
      exact hm.reaches reaches passes (by omega) grows moves

/-- Passes that are measured from a state on reach all that was accepted by then. -/
theorem Run.reaches {name : String} {config : BatchConfig} {m : Nat} {s t : Batch α}
    {l₁ l₂ : List (Label α)} {n₁ n₂ : List (Note α)} (run₁ : Run (start name config) l₁ n₁ s)
    (unmeasured : s.worker.left? = none)
    (bound : m ≤ ((start name config).history l₁).accepted.length) (run₂ : Run s l₂ n₂ t) :
    Reaches m ((start name config).history (l₁ ++ l₂)) t.worker := by
  induction run₂ with
  | nil => exact .none unmeasured
  | @snoc t u l₂ n₂ new label run₂ step ih =>
      have run := run₁.append run₂
      rw [← List.append_assoc, history_snoc run step]
      exact ih.step run.recorded (run.passes (Passes.start name config))
        (Nat.le_trans bound (run₁.accepted_length_le l₂)) (moves_of_step step)

/-! ## The call of a task -/

/-- The kind of call that the task of the worker has made at its end. -/
def Worker.called? : Worker α → Option Request.Kind
  | .flushing _ _ _ | .publishing _ _ => some .flush
  | .closing _ _ | .namingClose _ _ | .concluding _ _ => some .close
  | _ => none

theorem Worker.called?_woken (w : Worker α) : w.woken.called? = w.called? := by
  cases w <;> rfl

theorem Worker.Moves.called {s t : Batch α} {w w' : Worker α} {notes : List (Note α)}
    {kind : Request.Kind} (h : w.Moves s t w' notes) (hw : w'.called? = some kind) :
    w.called? = some kind ∨ ∃ r ∈ calls notes, r.kind = kind := by
  cases h with
  | @endsFlush p number limit =>
      cases hw
      exact .inr ⟨.flush limit, List.mem_singleton_self _, rfl⟩
  | @endsSweep w limit r t notes =>
      cases hw
      refine .inr ⟨.close limit, ?_, rfl⟩
      rw [calls_append]
      exact List.mem_append_right _ (List.mem_singleton_self _)
  | flushed | closed | notClosed | reportsClose => exact .inl hw
  | _ => cases hw

/-- A task that is past its call has made it since it was taken up. -/
theorem Run.called {s t : Batch α} {labels : List (Label α)} {notes : List (Note α)}
    {kind : Request.Kind} (run : Run s labels notes t) (fresh : s.worker.called? = none)
    (now : t.worker.called? = some kind) : ∃ r ∈ calls notes, r.kind = kind := by
  induction run with
  | nil => rw [fresh] at now; cases now
  | @snoc t u labels notes new label run step ih =>
      have before (same : t.worker.called? = some kind) :
          ∃ r ∈ calls (notes ++ new), r.kind = kind := by
        obtain ⟨r, hr, hk⟩ := ih same
        exact ⟨r, calls_append notes new ▸ List.mem_append_left _ hr, hk⟩
      cases moves_of_step step with
      | begins op => exact before now
      | caller _ hm =>
          exact before ((hm.worker_eq Worker.called? Worker.called?_woken).symm.trans now)
      | worker _ _ hm =>
          rcases hm.called now with same | ⟨r, hr, hk⟩
          · exact before same
          · exact ⟨r, calls_append notes new ▸ List.mem_append_right _ hr, hk⟩

/-- A task begins with nothing measured and nothing called. -/
theorem Moves.takes_up {s u : Batch α} {label : Label α} {notes : List (Note α)} {k : Task}
    (h : s.Moves label u notes) (decides : s.worker = .deciding)
    (task : u.worker.task? = some k) :
    u.worker.left? = none ∧ u.worker.called? = none ∧ u.worker.pending? = none := by
  cases h with
  | begins op =>
      have none : s.worker.task? = some k := task
      rw [decides] at none
      cases none
  | caller _ hm =>
      have none := (hm.worker_eq Worker.task? Worker.task?_woken).symm.trans task
      rw [decides] at none
      cases none
  | worker _ _ hm =>
      rw [decides] at hm
      cases hm with
      | beginsDrain | beginsFlush | beginsRoutine => exact ⟨rfl, rfl, rfl⟩
      | fallsAsleep => cases task

theorem Stays.task {k : Task} {s t : Batch α} {labels : List (Label α)}
    {notes : List (Note α)} (h : Stays k s labels notes t) : s.worker.task? = some k := by
  induction h with
  | nil task => exact task
  | snoc _ _ _ ih => exact ih

end Telemetry.Batch
