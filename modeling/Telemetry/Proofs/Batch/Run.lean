import Mathlib.Data.List.Induction
import Telemetry.Proofs.Batch.Moves

set_option autoImplicit false

/-! # Runs and what they leave alone

Runs can be put together and cut apart at any label. A run keeps the configuration, and a call that
has returned stays returned: steps of other threads change a caller's place at most by waking it. -/

namespace Telemetry.Batch

variable {α : Type}

/-! ## Cutting and joining -/

theorem Run.append {s t u : Batch α} {labels labels' : List (Label α)}
    {notes notes' : List (Note α)} (h : Run s labels notes t) (h' : Run t labels' notes' u) :
    Run s (labels ++ labels') (notes ++ notes') u := by
  induction h' with
  | nil => simpa using h
  | snoc _ step ih =>
      rw [← List.append_assoc, ← List.append_assoc]
      exact .snoc ih step

theorem Run.single {s t : Batch α} {label : Label α} {notes : List (Note α)}
    (h : s.step label = some (t, notes)) : Run s [label] notes t := by
  simpa using Run.snoc (.nil s) h

theorem Run.nil_iff {s t : Batch α} {notes : List (Note α)} :
    Run s [] notes t ↔ t = s ∧ notes = [] := by
  constructor
  · intro h
    generalize hl : ([] : List (Label α)) = labels at h
    cases h with
    | nil => exact ⟨rfl, rfl⟩
    | snoc _ _ => simp at hl
  · rintro ⟨rfl, rfl⟩
    exact .nil t

theorem Run.snoc_iff {s u : Batch α} {labels : List (Label α)} {label : Label α}
    {notes : List (Note α)} :
    Run s (labels ++ [label]) notes u ↔
      ∃ t n new, Run s labels n t ∧ t.step label = some (u, new) ∧ notes = n ++ new := by
  constructor
  · intro h
    generalize hl : labels ++ [label] = all at h
    cases h with
    | nil => simp at hl
    | snoc run step =>
        obtain ⟨rfl, hlabel⟩ := List.append_inj' hl rfl
        cases hlabel
        exact ⟨_, _, _, run, step, rfl⟩
  · rintro ⟨t, n, new, run, step, rfl⟩
    exact .snoc run step

/-- A run along two lists of labels passes through a state between them. -/
theorem Run.split {s u : Batch α} {labels labels' : List (Label α)} {notes : List (Note α)}
    (h : Run s (labels ++ labels') notes u) :
    ∃ t n n', Run s labels n t ∧ Run t labels' n' u ∧ notes = n ++ n' := by
  induction labels' using List.reverseRecOn generalizing u notes with
  | nil => exact ⟨u, notes, [], by simpa using h, .nil u, (List.append_nil notes).symm⟩
  | append_singleton labels' label ih =>
      rw [← List.append_assoc] at h
      obtain ⟨v, n, new, run, step, rfl⟩ := Run.snoc_iff.1 h
      obtain ⟨t, n₁, n₂, run₁, run₂, rfl⟩ := ih run
      exact ⟨t, n₁, n₂ ++ new, run₁, .snoc run₂ step, List.append_assoc n₁ n₂ new⟩

theorem Run.cons_iff {s u : Batch α} {label : Label α} {labels : List (Label α)}
    {notes : List (Note α)} :
    Run s (label :: labels) notes u ↔
      ∃ t new n, s.step label = some (t, new) ∧ Run t labels n u ∧ notes = new ++ n := by
  constructor
  · intro h
    rw [← List.singleton_append] at h
    obtain ⟨t, n, n', run, run', rfl⟩ := h.split
    rw [← List.nil_append [label]] at run
    obtain ⟨s', n₀, new, run₀, step, rfl⟩ := Run.snoc_iff.1 run
    obtain ⟨rfl, rfl⟩ := Run.nil_iff.1 run₀
    exact ⟨t, new, n', step, run', rfl⟩
  · rintro ⟨t, new, n, step, run, rfl⟩
    exact (Run.single step).append run

/-- What holds at the start of a run and is kept by each of its steps holds at its end. -/
theorem Run.preserves {p : Batch α → Prop} {s u : Batch α} {labels : List (Label α)}
    {notes : List (Note α)} (h : Run s labels notes u)
    (kept : ∀ {t v label new}, p t → Moves t label v new → p v) (hs : p s) : p u := by
  induction h with
  | nil => exact hs
  | snoc _ step ih => exact kept ih (moves_of_step step)

/-- The state and the notes at the end of the run along some labels; `none` if what they say cannot
happen. -/
def follow (s : Batch α) : List (Label α) → Option (Batch α × List (Note α))
  | [] => some (s, [])
  | label :: labels =>
    match s.step label with
    | none => none
    | some (t, new) =>
      match t.follow labels with
      | none => none
      | some (u, notes) => some (u, new ++ notes)

/-- The labels of a run decide everything that happens in it. -/
theorem run_iff_follow {s u : Batch α} {labels : List (Label α)} {notes : List (Note α)} :
    Run s labels notes u ↔ s.follow labels = some (u, notes) := by
  induction labels generalizing s notes with
  | nil =>
      rw [Run.nil_iff, follow, Option.some.injEq, Prod.mk.injEq]
      exact and_congr eq_comm eq_comm
  | cons label labels ih =>
      rw [Run.cons_iff, follow]
      constructor
      · rintro ⟨t, new, n, step, run, rfl⟩
        simp only [step, ih.1 run]
      · intro h
        split at h
        · cases h
        · rename_i t new step
          split at h
          · cases h
          · rename_i v n rest
            cases h
            exact ⟨t, new, n, step, ih.2 rest, rfl⟩

/-- What following the labels of a run finds at its end holds there. -/
theorem Run.test {s t : Batch α} {labels : List (Label α)} {notes : List (Note α)}
    (run : Run s labels notes t) (p : Batch α → List (Note α) → Bool)
    (h : (s.follow labels).any (fun x => p x.1 x.2) = true) : p t notes = true := by
  rw [run_iff_follow.1 run] at h
  exact h

/-- A run whose end passes a test, found by following its labels. -/
theorem exists_run (s : Batch α) (labels : List (Label α))
    (p : Batch α → List (Note α) → Bool)
    (h : (s.follow labels).any (fun x => p x.1 x.2) = true) :
    ∃ t notes, Run s labels notes t ∧ p t notes = true := by
  cases hf : s.follow labels with
  | none => rw [hf] at h; cases h
  | some x =>
      have run : Run s labels x.2 x.1 := run_iff_follow.2 hf
      exact ⟨x.1, x.2, run, run.test p h⟩

/-- The configuration with the least room. -/
def smallest (policy : OverflowPolicy) : BatchConfig :=
  { BatchConfig.default with
    maxQueueSize := 1
    maxBatchSize := 1
    overflow := policy
    batchSize_pos := UInt64.zero_lt_one
    batchSize_le := UInt64.le_refl 1 }

/-- A configuration whose batches are pairs. -/
def pairs : BatchConfig :=
  { BatchConfig.default with
    maxQueueSize := 4
    maxBatchSize := 2
    batchSize_pos := by decide
    batchSize_le := by decide }

/-- Whether the worker has stopped, by a panic or not. -/
def Worker.hasStopped (panicked : Bool) : Worker α → Bool
  | .stopped p => p == panicked
  | _ => false

theorem Worker.eq_stopped {w : Worker α} {panicked : Bool} (h : w.hasStopped panicked = true) :
    w = .stopped panicked := by
  cases w with
  | stopped p => rw [eq_of_beq h]
  | _ => cases h

/-! ## The calls of a run -/

/-- What the calls of a run ask for, by their numbers. -/
def operations (labels : List (Label α)) : List (Operation α) :=
  labels.filterMap fun label =>
    match label with
    | .begins op => some op
    | _ => none

theorem operations_append (labels labels' : List (Label α)) :
    operations (labels ++ labels') = operations labels ++ operations labels' :=
  List.filterMap_append

/-- Calls of one kind are counted when they begin. -/
theorem countP_operations_snoc_begins (p : Operation α → Bool) (labels : List (Label α))
    (op : Operation α) :
    (operations (labels ++ [.begins op])).countP p =
      (operations labels).countP p + if p op then 1 else 0 := by
  rw [operations_append, List.countP_append]
  show _ + List.countP p [op] = _
  rw [List.countP_singleton]

theorem countP_operations_snoc (p : Operation α → Bool) {label : Label α}
    (h : ∀ op, label ≠ .begins op) (labels : List (Label α)) :
    (operations (labels ++ [label])).countP p = (operations labels).countP p := by
  rw [operations_append, List.countP_append]
  cases label with
  | begins op => exact absurd rfl (h op)
  | _ => rfl

/-- Whether a call brings a record. -/
def Operation.isReceive : Operation α → Bool
  | .receive _ => true
  | _ => false

/-! ## What steps leave alone -/

theorem Sweep.Moves.frame {s t : Batch α} {w : Sweep} {next : Option Sweep}
    {notes : List (Note α)} (h : w.Moves s t next notes) :
    t = { s with queue := ⟨s.queue.capacity, t.queue.items⟩, counters := t.counters } := by
  cases h <;> rfl

theorem Caller.Moves.frame {s t : Batch α} {c c' : Caller α} {notes : List (Note α)}
    (h : c.Moves s t c' notes) :
    t.config = s.config ∧ t.queue.capacity = s.queue.capacity ∧ t.isDrained = s.isDrained ∧
      t.callers = s.callers := by
  cases h with
  | sweeps hw | endsSweep hw => rw [hw.frame]; exact ⟨rfl, rfl, rfl, rfl⟩
  | _ => exact ⟨rfl, rfl, rfl, rfl⟩

/-- A caller's step leaves the worker where it is; it may wake it. -/
theorem Caller.Moves.worker {s t : Batch α} {c c' : Caller α} {notes : List (Note α)}
    (h : c.Moves s t c' notes) : t.worker = s.worker ∨ t.worker = s.worker.woken := by
  cases h with
  | sweeps hw | endsSweep hw => rw [hw.frame]; exact .inl rfl
  | notifies | requestsFlush | closes => exact .inr rfl
  | _ => exact .inl rfl

/-- What does not change when the worker is woken does not change in a caller's step. -/
theorem Caller.Moves.worker_eq {β : Type} {s t : Batch α} {c c' : Caller α}
    {notes : List (Note α)} (h : c.Moves s t c' notes) (f : Worker α → β)
    (woken : ∀ w, f w.woken = f w) : f t.worker = f s.worker := by
  rcases h.worker with same | wakes
  · rw [same]
  · rw [wakes, woken]

theorem Worker.Moves.frame {s t : Batch α} {w w' : Worker α} {notes : List (Note α)}
    (h : w.Moves s t w' notes) :
    t.config = s.config ∧ t.queue.capacity = s.queue.capacity ∧
      (t.callers = s.callers ∨ t.callers = s.callers.map Caller.notify) := by
  cases h with
  | sweeps hw | endsSweep hw | unwindSweeps hw | endsUnwindSweep hw =>
      rw [hw.frame]
      exact ⟨rfl, rfl, .inl rfl⟩
  | announces | announcesEnd | unwindAnnounces => exact ⟨rfl, rfl, .inr rfl⟩
  | _ => exact ⟨rfl, rfl, .inl rfl⟩

theorem Moves.config {s u : Batch α} {label : Label α} {notes : List (Note α)}
    (h : s.Moves label u notes) : u.config = s.config := by
  cases h with
  | begins => rfl
  | caller _ hm => exact hm.frame.1
  | worker _ _ hm => exact hm.frame.1

theorem Moves.callers_length {s u : Batch α} {label : Label α} {notes : List (Note α)}
    (h : s.Moves label u notes) :
    u.callers.length = s.callers.length + (operations [label]).length := by
  cases h with
  | begins op => exact List.length_append
  | @caller i expired c c' t _ hc hm =>
      show (t.callers.set i c').length = _
      rw [List.length_set, hm.frame.2.2.2]
      rfl
  | @worker label t w _ _ other hm =>
      have none : operations [label] = [] := by
        cases label with
        | begins op => exact absurd rfl (other op)
        | _ => rfl
      rw [none]
      obtain ⟨-, -, callers | callers⟩ := hm.frame
      · exact congrArg List.length callers
      · exact (congrArg List.length callers).trans (List.length_map _)

theorem Run.callers_length {s t : Batch α} {labels : List (Label α)} {notes : List (Note α)}
    (run : Run s labels notes t) :
    t.callers.length = s.callers.length + (operations labels).length := by
  induction run with
  | nil => rfl
  | snoc run step ih =>
      rw [(moves_of_step step).callers_length, ih, operations_append, List.length_append,
        Nat.add_assoc]

/-! ## Callers along a run -/

/-- What becomes of the caller at `i`: it moves, or it stays where it is and may be woken. -/
theorem Moves.caller_of_getElem? {s u : Batch α} {label : Label α} {notes : List (Note α)}
    {i : Nat} {c : Caller α} (h : s.Moves label u notes) (hc : s.callers[i]? = some c) :
    (label.caller? = some i ∧
      ∃ t c', c.Moves s t c' notes ∧ u = { t with callers := s.callers.set i c' }) ∨
    (label.caller? ≠ some i ∧
      (u.callers[i]? = some c ∨ u.callers[i]? = some c.notify)) := by
  cases h with
  | begins op =>
      refine .inr ⟨nofun, .inl ?_⟩
      rw [List.getElem?_append_left (List.getElem?_eq_some_iff.1 hc).1]
      exact hc
  | @caller j expired d d' t _ hd hm =>
      obtain ⟨-, -, -, callers⟩ := hm.frame
      by_cases hij : j = i
      · subst hij
        obtain rfl : c = d := Option.some.inj (hc.symm.trans hd)
        exact .inl ⟨rfl, t, d', hm, by rw [callers]⟩
      · refine .inr ⟨fun heq => hij (Option.some.inj heq), .inl ?_⟩
        show (t.callers.set j d')[i]? = some c
        rw [callers, List.getElem?_set_ne hij]
        exact hc
  | @worker label t w _ hl _ hm =>
      refine .inr ⟨by rw [hl]; exact nofun, ?_⟩
      obtain ⟨-, -, callers | callers⟩ := hm.frame
      · exact .inl (by rw [show ({ t with worker := w } : Batch α).callers = _ from callers, hc])
      · refine .inr ?_
        show t.callers[i]? = some c.notify
        rw [callers, List.getElem?_map, hc]
        rfl

/-- Where the caller at `i` comes from: it begins, it moves, or it was there before. -/
theorem Moves.caller_from {s u : Batch α} {label : Label α} {notes : List (Note α)} {i : Nat}
    {c' : Caller α} (h : s.Moves label u notes) (hc' : u.callers[i]? = some c') :
    (∃ op, label = .begins op ∧ i = s.callers.length ∧ c' = op.place ∧
      u = { s with callers := s.callers ++ [op.place] }) ∨
    ∃ c, s.callers[i]? = some c ∧
      ((label.caller? = some i ∧
        ∃ t, c.Moves s t c' notes ∧ u = { t with callers := s.callers.set i c' }) ∨
      (label.caller? ≠ some i ∧ (c' = c ∨ c' = c.notify))) := by
  cases hc : s.callers[i]? with
  | some c =>
      refine .inr ⟨c, rfl, ?_⟩
      rcases h.caller_of_getElem? hc with ⟨hl, t, d, hm, rfl⟩ | ⟨hl, same | woken⟩
      · have hi : i < s.callers.length := (List.getElem?_eq_some_iff.1 hc).1
        obtain rfl : d = c' := by
          simpa [List.getElem?_set_self hi] using hc'
        exact .inl ⟨hl, t, hm, rfl⟩
      · exact .inr ⟨hl, .inl (Option.some.inj (hc'.symm.trans same))⟩
      · exact .inr ⟨hl, .inr (Option.some.inj (hc'.symm.trans woken))⟩
  | none =>
      have hi : s.callers.length ≤ i := List.getElem?_eq_none_iff.1 hc
      cases h with
      | begins op =>
          refine .inl ⟨op, rfl, ?_⟩
          have hlt : i < (s.callers ++ [op.place]).length := (List.getElem?_eq_some_iff.1 hc').1
          obtain rfl : i = s.callers.length := by
            rw [List.length_append, List.length_singleton] at hlt
            omega
          have : op.place = c' := by simpa using hc'
          exact ⟨rfl, this.symm, rfl⟩
      | @caller j expired d d' t _ hd hm =>
          have hlt : i < (t.callers.set j d').length := (List.getElem?_eq_some_iff.1 hc').1
          rw [List.length_set, hm.frame.2.2.2] at hlt
          omega
      | @worker label t w _ hl _ hm =>
          have hlt : i < t.callers.length := (List.getElem?_eq_some_iff.1 hc').1
          obtain ⟨-, -, callers | callers⟩ := hm.frame
          · rw [callers] at hlt
            omega
          · rw [callers, List.length_map] at hlt
            omega

/-- A call that has returned stays returned, with the same result. -/
theorem Moves.done {s u : Batch α} {label : Label α} {notes : List (Note α)} {i : Nat}
    {r : Option ProcessorResult} (h : s.Moves label u notes)
    (hd : s.callers[i]? = some (.done r)) : u.callers[i]? = some (.done r) := by
  rcases h.caller_of_getElem? hd with ⟨-, t, c', hm, -⟩ | ⟨-, same | woken⟩
  · cases hm
  · exact same
  · exact woken

theorem Run.done {s u : Batch α} {labels : List (Label α)} {notes : List (Note α)} {i : Nat}
    {r : Option ProcessorResult} (h : Run s labels notes u)
    (hd : s.callers[i]? = some (.done r)) : u.callers[i]? = some (.done r) :=
  h.preserves (p := fun t => t.callers[i]? = some (.done r)) (fun hd hm => hm.done hd) hd

/-- The result that a caller has come back with. -/
def Caller.result? : Caller α → Option (Option ProcessorResult)
  | .done r => some r
  | _ => none

/-- The result of call number `i`, once it has returned. -/
def result? (s : Batch α) (i : Nat) : Option (Option ProcessorResult) :=
  s.callers[i]?.bind Caller.result?

theorem callers_of_result? {s : Batch α} {i : Nat} {r : Option ProcessorResult}
    (h : s.result? i = some r) : s.callers[i]? = some (.done r) := by
  obtain ⟨c, hc, hr⟩ := Option.bind_eq_some_iff.1 h
  cases c with
  | done r' =>
      cases hr
      exact hc
  | _ => cases hr

theorem Run.config {s u : Batch α} {labels : List (Label α)} {notes : List (Note α)}
    (h : Run s labels notes u) : u.config = s.config :=
  h.preserves (p := fun t => t.config = s.config) (fun ht hm => hm.config.trans ht) rfl

end Telemetry.Batch
