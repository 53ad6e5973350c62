import Telemetry.Proofs.Batch.Run

set_option autoImplicit false

/-! # What happens along a run

The claims about a batch processor speak of records by the call that brought them and by what
became of them, which no state remembers. A history keeps both: the records that the queue has
accepted, in this order, and for those that have left the queue, which are always the first ones,
whether they went into a batch, were evicted or were discarded. It is read off a run from outside:
each step adds what it did to the queue.

The calls on the exporter are read off the notes of the run. -/

namespace Telemetry

/-! ## Histories -/

/-- What became of a record that has left the queue. -/
inductive Batch.Fate where
  /-- The worker took it for a batch. -/
  | batched
  /-- It made room for a later one. -/
  | evicted
  /-- It was discarded behind the final drain. -/
  | discarded
deriving DecidableEq

/-- The records accepted so far and the fates of those that have left the queue. -/
structure Batch.History (α : Type) where
  /-- The records in the order in which the queue accepted them, each with the number of the call
  that brought it. -/
  accepted : List (Nat × α)
  /-- What became of the records that have left, in the order in which they left. -/
  fates : List Batch.Fate

namespace Batch

variable {α : Type}

namespace History

/-- Nothing has happened. -/
def empty : History α :=
  ⟨[], []⟩

/-- First this history, then that one. -/
def followedBy (h h' : History α) : History α :=
  ⟨h.accepted ++ h'.accepted, h.fates ++ h'.fates⟩

/-- Of the records `xs`, the first ones of which have the fates `fates`, those with fate `f`. -/
def select (f : Fate) : List (Nat × α) → List Fate → List (Nat × α)
  | x :: xs, g :: fates => if g = f then x :: select f xs fates else select f xs fates
  | _, _ => []

/-- The records with a fate, in the order in which the queue accepted them. -/
def withFate (h : History α) (f : Fate) : List (Nat × α) :=
  select f h.accepted h.fates

/-- How many of the first `k` records to leave went into a batch. -/
def rank (h : History α) (k : Nat) : Nat :=
  (h.fates.take k).count .batched

/-- The history with another accepted record. -/
def accept (h : History α) (x : Nat × α) : History α :=
  ⟨h.accepted ++ [x], h.fates⟩

/-- The history after the oldest record in the queue has left. -/
def leave (h : History α) (f : Fate) : History α :=
  ⟨h.accepted, h.fates ++ [f]⟩

@[simp] theorem followedBy_empty (h : History α) : h.followedBy empty = h := by
  simp [followedBy, empty]

@[simp] theorem empty_followedBy (h : History α) : empty.followedBy h = h := by
  simp [followedBy, empty]

theorem followedBy_accept (h : History α) (x : Nat × α) :
    h.followedBy ⟨[x], []⟩ = h.accept x := by
  simp [followedBy, accept]

theorem followedBy_leave (h : History α) (f : Fate) : h.followedBy ⟨[], [f]⟩ = h.leave f := by
  simp [followedBy, leave]

theorem followedBy_assoc (h h' h'' : History α) :
    (h.followedBy h').followedBy h'' = h.followedBy (h'.followedBy h'') := by
  simp [followedBy]

@[simp] theorem select_nil (f : Fate) (xs : List (Nat × α)) : select f xs [] = [] := by
  cases xs <;> rfl

/-- A record that is accepted has no fate yet. -/
theorem select_accept (f : Fate) (x : Nat × α) {xs : List (Nat × α)} {fates : List Fate}
    (h : fates.length ≤ xs.length) : select f (xs ++ [x]) fates = select f xs fates := by
  induction xs generalizing fates with
  | nil =>
      obtain rfl : fates = [] := List.eq_nil_of_length_eq_zero (Nat.le_zero.1 h)
      simp
  | cons y xs ih =>
      cases fates with
      | nil => rfl
      | cons g fates =>
          have rest := ih (Nat.le_of_succ_le_succ h)
          simp only [List.cons_append, select, rest]

/-- The record that leaves the queue is the first one without a fate. -/
theorem select_leave (f g : Fate) {x : Nat × α} {xs : List (Nat × α)} {fates : List Fate}
    (h : xs[fates.length]? = some x) :
    select f xs (fates ++ [g]) = select f xs fates ++ if g = f then [x] else [] := by
  induction xs generalizing fates with
  | nil => simp at h
  | cons y xs ih =>
      cases fates with
      | nil =>
          obtain rfl : y = x := by simpa using h
          simp [select]
      | cons g' fates =>
          have front : xs[fates.length]? = some x := by simpa using h
          have rest := ih front
          simp only [List.cons_append, select, rest]
          split <;> rfl

theorem select_sublist (f : Fate) (xs : List (Nat × α)) (fates : List Fate) :
    (select f xs fates).Sublist xs := by
  induction xs generalizing fates with
  | nil => exact List.Sublist.refl []
  | cons y xs ih =>
      cases fates with
      | nil => exact List.nil_sublist _
      | cons g fates =>
          unfold select
          split
          · exact (ih fates).cons_cons y
          · exact (ih fates).cons y

theorem getElem?_select {f : Fate} {x : Nat × α} {xs : List (Nat × α)} {fates : List Fate}
    {k : Nat} (hx : xs[k]? = some x) (hf : fates[k]? = some f) :
    (select f xs fates)[(fates.take k).count f]? = some x := by
  induction xs generalizing fates k with
  | nil => simp at hx
  | cons y xs ih =>
      cases fates with
      | nil => simp at hf
      | cons g fates =>
          cases k with
          | zero =>
              obtain rfl : y = x := by simpa using hx
              obtain rfl : g = f := by simpa using hf
              simp [select]
          | succ k =>
              have rest := ih (by simpa using hx) (by simpa using hf)
              by_cases hg : g = f
              · simpa [select, hg] using rest
              · simpa [select, hg] using rest

theorem length_select (f : Fate) {xs : List (Nat × α)} {fates : List Fate}
    (h : fates.length ≤ xs.length) : (select f xs fates).length = fates.count f := by
  induction xs generalizing fates with
  | nil =>
      obtain rfl : fates = [] := List.eq_nil_of_length_eq_zero (Nat.le_zero.1 h)
      rfl
  | cons y xs ih =>
      cases fates with
      | nil => rfl
      | cons g fates =>
          have rest := ih (Nat.le_of_succ_le_succ h)
          by_cases hg : g = f
          · simp [select, hg, rest]
          · simp [select, hg, rest]

end History

/-! ## What a step adds -/

/-- The record that a step puts into the queue, with the number of its call. -/
def arrivals (s : Batch α) (label : Label α) (u : Batch α) : List (Nat × α) :=
  match label.caller? with
  | some i => (u.queue.items.drop s.queue.length).map fun a => (i, a)
  | none => []

/-- The fate of a record that leaves the queue in a step: who took it, and where in its work. -/
def fate (s : Batch α) (label : Label α) : Fate :=
  match label.caller? with
  | some i =>
    match s.callers[i]? with
    | some (.evicting _) => .evicted
    | _ => .discarded
  | none =>
    match s.worker with
    | .collecting _ _ => .batched
    | _ => .discarded

/-- What a step adds to the history. -/
def record (s : Batch α) (label : Label α) (u : Batch α) : History α :=
  ⟨s.arrivals label u, List.replicate (s.queue.length - u.queue.length) (s.fate label)⟩

/-- The history of the run from a state along some labels. -/
def history (s : Batch α) : List (Label α) → History α
  | [] => .empty
  | label :: labels =>
    match s.step label with
    | some (u, _) => (s.record label u).followedBy (u.history labels)
    | none => .empty

theorem history_append {s t : Batch α} {labels : List (Label α)} {notes : List (Note α)}
    (run : Run s labels notes t) (labels' : List (Label α)) :
    s.history (labels ++ labels') = (s.history labels).followedBy (t.history labels') := by
  induction run generalizing labels' with
  | nil => rw [List.nil_append, history, History.empty_followedBy]
  | @snoc t u labels notes new label run step ih =>
      have one : t.history [label] = t.record label u := by
        simp only [history, step, History.followedBy_empty]
      have rest : t.history (label :: labels') =
          (t.record label u).followedBy (u.history labels') := by
        simp only [history, step]
      rw [List.append_assoc, List.singleton_append, ih, rest, ih, one, History.followedBy_assoc]

theorem history_snoc {s t u : Batch α} {labels : List (Label α)} {label : Label α}
    {notes new : List (Note α)} (run : Run s labels notes t)
    (step : t.step label = some (u, new)) :
    s.history (labels ++ [label]) = (s.history labels).followedBy (t.record label u) := by
  rw [history_append run]
  simp only [history, step, History.followedBy_empty]

/-- Along a run no accepted record is forgotten. -/
theorem Run.accepted_length_le {s t : Batch α} {labels : List (Label α)} {notes : List (Note α)}
    (run : Run s labels notes t) (labels' : List (Label α)) :
    (s.history labels).accepted.length ≤ (s.history (labels ++ labels')).accepted.length := by
  rw [history_append run]
  exact List.length_append ▸ Nat.le_add_right _ _

/-! ## What a step does to the queue -/

/-- Who discards a record: a caller that has seen the end of the final drain, or the worker behind
the drain or in a panic. -/
inductive Discards (s : Batch α) (label : Label α) (u : Batch α) : Prop where
  | caller {i n : Nat} : label.caller? = some i →
      s.callers[i]? = some (.sweeping (.taking n)) → u.worker = s.worker → Discards s label u
  | closing {n : Nat} {limit : Duration} {r : ExportResult} : label.caller? = none →
      s.worker = .sweeping (.taking n) limit r → u.worker = .sweeping (.taking (n + 1)) limit r →
      Discards s label u
  | unwinding {n : Nat} : label.caller? = none → s.worker = .unwindSweeping (.taking n) →
      u.worker = .unwindSweeping (.taking (n + 1)) → Discards s label u

/-- What a step does to the queue, with what it adds to the history `h`. -/
inductive Touches (s : Batch α) (label : Label α) (u : Batch α) (h : History α) :
    History α → Prop where
  | keeps : u.queue = s.queue → Touches s label u h h
  | accepts {i : Nat} {a : α} : label.caller? = some i → s.callers[i]? = some (.offering a) →
      u.callers = s.callers.set i .counting → s.queue.length < s.queue.capacity →
      u.queue = ⟨s.queue.capacity, s.queue.items ++ [a]⟩ → u.worker = s.worker →
      Touches s label u h (h.accept (i, a))
  | evicts {i : Nat} {a old : α} {rest : List α} : label.caller? = some i →
      s.callers[i]? = some (.evicting a) → s.queue.items = old :: rest →
      u.queue = ⟨s.queue.capacity, rest⟩ → u.worker = s.worker →
      Touches s label u h (h.leave .evicted)
  | batches {p : Pass} {batch : List α} {a : α} {rest : List α} : label.caller? = none →
      s.worker = .collecting p batch → batch.length < p.limit s.config →
      s.queue.items = a :: rest → u.queue = ⟨s.queue.capacity, rest⟩ →
      u.worker = .collecting p (batch ++ [a]) →
      Touches s label u h (h.leave .batched)
  | discards {a : α} {rest : List α} : Discards s label u → s.queue.items = a :: rest →
      u.queue = ⟨s.queue.capacity, rest⟩ → Touches s label u h (h.leave .discarded)

theorem record_of_keeps {s u : Batch α} (label : Label α) (h : u.queue = s.queue) :
    s.record label u = .empty := by
  unfold record arrivals
  rw [h, Nat.sub_self, Queue.length, List.drop_length]
  split <;> rfl

theorem record_of_accepts {s u : Batch α} {label : Label α} {i : Nat} {a : α}
    (caller : label.caller? = some i)
    (queue : u.queue = ⟨s.queue.capacity, s.queue.items ++ [a]⟩) :
    s.record label u = ⟨[(i, a)], []⟩ := by
  have less : s.queue.length - u.queue.length = 0 := by
    rw [queue]
    show s.queue.items.length - (s.queue.items ++ [a]).length = 0
    rw [List.length_append]
    omega
  unfold record arrivals
  rw [less, caller, queue, Queue.length]
  simp

theorem record_of_leaves {s u : Batch α} {label : Label α} {a : α} {rest : List α} {f : Fate}
    (items : s.queue.items = a :: rest) (queue : u.queue = ⟨s.queue.capacity, rest⟩)
    (fate : s.fate label = f) : s.record label u = ⟨[], [f]⟩ := by
  have one : s.queue.length - u.queue.length = 1 := by
    rw [queue]
    show s.queue.items.length - rest.length = 1
    rw [items, List.length_cons]
    omega
  have nothing : u.queue.items.drop s.queue.length = [] := by
    apply List.drop_eq_nil_of_le
    show u.queue.length ≤ s.queue.length
    omega
  unfold record arrivals
  rw [one, nothing, fate]
  split <;> rfl

theorem fate_of_discards {s u : Batch α} {label : Label α} (h : Discards s label u) :
    s.fate label = .discarded := by
  unfold fate
  cases h with
  | caller hl hc _ => simp only [hl, hc]
  | closing hl hw _ => simp only [hl, hw]
  | unwinding hl hw _ => simp only [hl, hw]

theorem touches_of_discards {s u : Batch α} {label : Label α} {a : α} {rest : List α}
    (h : Discards s label u) (items : s.queue.items = a :: rest)
    (queue : u.queue = ⟨s.queue.capacity, rest⟩) (past : History α) :
    Touches s label u past (past.followedBy (s.record label u)) := by
  rw [record_of_leaves items queue (fate_of_discards h), History.followedBy_leave]
  exact .discards h items queue

theorem touches_of_keeps {s u : Batch α} (label : Label α) (queue : u.queue = s.queue)
    (past : History α) : Touches s label u past (past.followedBy (s.record label u)) := by
  rw [record_of_keeps label queue, History.followedBy_empty]
  exact .keeps queue

theorem Moves.touches {s u : Batch α} {label : Label α} {notes : List (Note α)}
    (h : s.Moves label u notes) (past : History α) :
    Touches s label u past (past.followedBy (s.record label u)) := by
  -- The queue changes where a caller queues or evicts, where the worker collects and in sweeps.
  cases h with
  | begins op => exact touches_of_keeps _ (by rfl) past
  | @caller i expired c c' t _ hc hm =>
      cases hm with
      | @queues a room =>
          rw [record_of_accepts (i := i) (a := a) rfl (by rfl), History.followedBy_accept]
          exact .accepts rfl hc rfl room rfl rfl
      | @evicts a old rest items =>
          rw [record_of_leaves (f := .evicted) items (by rfl) (by simp [fate, Label.caller?, hc]),
            History.followedBy_leave]
          exact .evicts rfl hc items rfl rfl
      | sweeps hw =>
          cases hw with
          | takes _ items =>
              exact touches_of_discards (.caller (by rfl) hc (by rfl)) items (by rfl) past
          | _ => exact touches_of_keeps _ (by rfl) past
      | endsSweep hw => cases hw <;> exact touches_of_keeps _ (by rfl) past
      | _ => exact touches_of_keeps _ (by rfl) past
  | @worker label t w _ hl _ hm =>
      generalize hs : s.worker = old at hm
      cases hm with
      | @collects p batch a rest room items =>
          rw [record_of_leaves (f := .batched) items (by rfl) (by simp [fate, hl, hs]),
            History.followedBy_leave]
          exact .batches hl hs room items rfl rfl
      | sweeps hw =>
          cases hw with
          | takes _ items => exact touches_of_discards (.closing hl hs rfl) items (by rfl) past
          | _ => exact touches_of_keeps _ (by rfl) past
      | unwindSweeps hw =>
          cases hw with
          | takes _ items => exact touches_of_discards (.unwinding hl hs rfl) items (by rfl) past
          | _ => exact touches_of_keeps _ (by rfl) past
      | endsSweep hw | endsUnwindSweep hw => cases hw <;> exact touches_of_keeps _ (by rfl) past
      | _ => exact touches_of_keeps _ (by rfl) past

end Batch

end Telemetry
