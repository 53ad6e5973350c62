import Telemetry.Proofs.Batch.Healthy

set_option autoImplicit false

/-! # Runs with one caller

One caller makes all calls, one after the other, while the worker goes its own way. All calls but
the latest have returned, so what a run does is told by the place of the latest call, the state
that the threads share and the worker's place; an induction over such runs has to look at three
kinds of steps only. -/

namespace Telemetry.Batch

variable {α : Type}

/-! ## One caller -/

/-- Each call of the run begins when all calls before it have returned. -/
def OneCaller (s : Batch α) (labels : List (Label α)) : Prop :=
  ∀ before op after notes t, labels = before ++ .begins op :: after → Run s before notes t →
    ∀ c ∈ t.callers, ∃ r, c = .done r

/-- Along the run no record is counted as lost to a full queue. -/
def NoOverflow (s : Batch α) (labels : List (Label α)) : Prop :=
  ∀ before after notes t, labels = before ++ after → Run s before notes t →
    t.counters.droppedOverflow = 0

theorem OneCaller.of_append {s : Batch α} {labels new : List (Label α)}
    (h : OneCaller s (labels ++ new)) : OneCaller s labels := by
  intro before op after notes t cut
  exact h before op (after ++ new) notes t (by rw [cut, List.append_assoc, List.cons_append])

theorem NoOverflow.of_append {s : Batch α} {labels new : List (Label α)}
    (h : NoOverflow s (labels ++ new)) : NoOverflow s labels := by
  intro before after notes t cut
  exact h before (after ++ new) notes t (by rw [cut, List.append_assoc])

/-- Whether a label is the beginning of a call. -/
def Label.isBegins : Label α → Bool
  | .begins _ => true
  | _ => false

/-- Whether a call has returned. -/
def Caller.isDone : Caller α → Bool
  | .done _ => true
  | _ => false

theorem Caller.eq_done_of_isDone {c : Caller α} (h : c.isDone = true) : ∃ r, c = .done r := by
  cases c with
  | done r => exact ⟨r, rfl⟩
  | _ => cases h

/-- Following the labels up to each beginning of a call shows whether there is one caller. -/
theorem OneCaller.of_follow {s : Batch α} {labels : List (Label α)}
    (h : ∀ k < labels.length, (labels[k]?.any Label.isBegins) = true →
      ((s.follow (labels.take k)).all fun x => x.1.callers.all Caller.isDone) = true) :
    OneCaller s labels := by
  rintro before op after notes t rfl run c hc
  have found := h before.length (by simp) (by simp [Label.isBegins])
  rw [List.take_left, run_iff_follow.1 run, Option.all_some, List.all_eq_true] at found
  exact Caller.eq_done_of_isDone (found c hc)

theorem NoOverflow.of_follow {s : Batch α} {labels : List (Label α)}
    (h : ∀ k < labels.length + 1,
      ((s.follow (labels.take k)).all fun x => x.1.counters.droppedOverflow == 0) = true) :
    NoOverflow s labels := by
  rintro before after notes t rfl run
  have found := h before.length (by rw [List.length_append]; omega)
  rw [List.take_left, run_iff_follow.1 run, Option.all_some] at found
  exact eq_of_beq found

/-- The latest call. -/
def latest (s : Batch α) : Caller α :=
  s.callers.getLast?.getD (.done none)

theorem latest_eq {s : Batch α} {i : Nat} {c : Caller α} (hc : s.callers[i]? = some c)
    (last : s.callers.length ≤ i + 1) : s.latest = c := by
  have lt := (List.getElem?_eq_some_iff.1 hc).1
  have position : s.callers.length - 1 = i := by omega
  rw [latest, List.getLast?_eq_getElem?, position, hc]
  rfl

theorem latest_of_returned {s : Batch α} (returned : ∀ c ∈ s.callers, ∃ r, c = .done r) :
    ∃ r, s.latest = .done r := by
  rw [latest]
  cases last : s.callers.getLast? with
  | none => exact ⟨none, rfl⟩
  | some c => exact returned c (List.mem_of_getLast? last)

/-- Earlier calls have returned. -/
theorem Run.returned_before {s t : Batch α} {labels : List (Label α)} {notes : List (Note α)}
    (run : Run s labels notes t) (one : OneCaller s labels) (empty : s.callers = []) :
    ∀ (i : Nat) (c : Caller α), t.callers[i]? = some c → i + 1 < t.callers.length →
      ∃ r, c = .done r := by
  -- Only the beginning of a call makes the latest call an earlier one, and that waits for it.
  induction run with
  | nil =>
      intro i c hc
      rw [empty] at hc
      cases hc
  | @snoc t u labels notes new label run step ih =>
      have before := ih one.of_append
      intro i c hc lt
      rcases (moves_of_step step).caller_from hc with ⟨op, rfl, rfl, -, hu⟩ | ⟨d, hd, moved⟩
      · rw [hu, List.length_append] at lt
        exact absurd lt (Nat.lt_irrefl _)
      · have length := (moves_of_step step).callers_length
        rcases moved with ⟨hl, v, hm, rfl⟩ | ⟨-, same⟩
        · rw [List.length_set] at lt
          obtain ⟨r, rfl⟩ := before i d hd lt
          cases hm
        · have returned : ∃ r, d = .done r := by
            cases label with
            | begins op =>
                exact one labels op [] notes t rfl run d (List.mem_of_getElem? hd)
            | _ => exact before i d hd (Nat.lt_of_lt_of_eq lt length)
          obtain ⟨r, rfl⟩ := returned
          rcases same with rfl | rfl <;> exact ⟨r, rfl⟩

/-- Only the latest call moves. -/
theorem Run.latest_moves {s t : Batch α} {labels : List (Label α)} {notes : List (Note α)}
    (run : Run s labels notes t) (one : OneCaller s labels) (empty : s.callers = []) {i : Nat}
    {c : Caller α} (hc : t.callers[i]? = some c) (moves : ∀ r, c ≠ .done r) :
    t.latest = c ∧ i + 1 = t.callers.length := by
  have lt := (List.getElem?_eq_some_iff.1 hc).1
  have last : i + 1 = t.callers.length := by
    by_contra other
    obtain ⟨r, rfl⟩ := run.returned_before one empty i c hc (by omega)
    exact moves r rfl
  exact ⟨latest_eq hc (Nat.le_of_eq last.symm), last⟩

/-! ## Calls that do not come back in order -/

/-- A call that has lost a record to a full queue, or whose time has run out. -/
def Caller.spoils : Caller α → Bool
  | .overflowing _ _ => true
  | .leaving (.error (.timeout _)) _ | .done (some (.error (.timeout _))) => true
  | _ => false

@[simp] theorem Caller.spoils_notify (c : Caller α) : c.notify.spoils = c.spoils := by
  cases c <;> rfl

/-- A caller that drops the processor. -/
def Caller.implied : Caller α → Bool
  | .dropping => true
  | .closing _ implied | .awaitingShutdown _ implied _ | .claiming _ implied => implied
  | .joining _ implied | .leaving _ implied => implied
  | _ => false

theorem Caller.Ending.implied_eq {r : ProcessorResult} {limit : Duration} {c : Caller α}
    (h : c.Ending r limit false) : c.implied = false := by
  cases h <;> rfl

theorem Caller.implied_of_not_closes {c : Caller α} (h : c.closes = false) :
    c.implied = false := by
  cases c <;> first | rfl | cases h

/-- Where nobody drops the processor, no call is at the places of a drop. -/
theorem Run.not_implied {name : String} {config : BatchConfig} {s : Batch α}
    {labels : List (Label α)} {notes : List (Note α)}
    (run : Run (start name config) labels notes s)
    (undropped : ∀ op ∈ operations labels, op ≠ .drop) {i : Nat} {c : Caller α}
    (hc : s.callers[i]? = some c) : c.implied = false := by
  have length : s.callers.length = 0 + (operations labels).length := run.callers_length
  have lt : i < (operations labels).length := by
    have := (List.getElem?_eq_some_iff.1 hc).1
    omega
  have ends := run.ends (List.getElem?_eq_getElem lt) hc
  have kept := undropped _ (List.getElem_mem lt)
  generalize (operations labels)[i] = op at ends kept
  cases op with
  | shutdown limit =>
      obtain ⟨r, ending, -⟩ := ends
      exact ending.implied_eq
  | drop => exact absurd rfl kept
  | _ => exact Caller.implied_of_not_closes ends

/-- A call that does not come back in order shows it for good, or counts a lost record. -/
theorem Moves.spoils {s u : Batch α} {label : Label α} {notes : List (Note α)}
    (h : s.Moves label u notes) (room : u.counters.droppedOverflow = 0)
    (before : s.counters.droppedOverflow = 0) {i : Nat} {c : Caller α}
    (hc : s.callers[i]? = some c) (plain : c.implied = false) (spoils : c.spoils = true) :
    ∃ c ∈ u.callers, c.spoils = true := by
  rcases h.caller_of_getElem? hc with ⟨-, t, c', hm, rfl⟩ | ⟨-, same | woken⟩
  · have lt := (List.getElem?_eq_some_iff.1 hc).1
    refine ⟨c', List.mem_set lt c', ?_⟩
    cases hm with
    | countsOverflow =>
        have one : s.counters.droppedOverflow + 1 = 0 := room
        rw [before] at one
        exact absurd one (by decide)
    | @leaves r =>
        cases r with
        | ok => cases spoils
        | error e => cases e <;> first | rfl | cases spoils
    | leavesDrop => cases plain
    | _ => cases spoils
  · exact ⟨c, List.mem_of_getElem? same, spoils⟩
  · exact ⟨c.notify, List.mem_of_getElem? woken, c.spoils_notify.trans spoils⟩

/-! ## The induction -/

/-- What all runs from the start with an exporter that never fails keep. -/
structure Sound (s : Batch α) : Prop where
  shutsDown : ShutsDown s
  numbered : Numbered s
  concluded : Concluded s
  passes : Passes s.worker
  healthy : Healthy s

/-- A run with one caller, which never drops the processor, and an exporter that never fails. No
record is lost to a full queue and no call has run out of time. -/
structure Solo (name : String) (config : BatchConfig) (labels : List (Label α))
    (notes : List (Note α)) (s : Batch α) : Prop where
  run : Run (start name config) labels notes s
  one : OneCaller (start name config) labels
  undropped : ∀ op ∈ operations labels, op ≠ .drop
  succeeds : ∀ o ∈ outcomes notes, o.guarded = .ok ()
  room : NoOverflow (start name config) labels
  ordered : ∀ c ∈ s.callers, c.spoils = false

variable {name : String} {config : BatchConfig} {labels : List (Label α)}
  {notes : List (Note α)} {s : Batch α}

theorem Solo.sound (h : Solo name config labels notes s) : Sound s where
  shutsDown := h.run.shutsDown (shutsDown_start name config)
  numbered := h.run.numbered
  concluded := h.run.concluded
  passes := h.run.passes (Passes.start name config)
  healthy := h.run.healthy h.succeeds

/-- What such a run is, it was before its last step. -/
theorem Solo.before {label : Label α} {new : List (Note α)} {u : Batch α}
    (h : Solo name config (labels ++ [label]) (notes ++ new) u)
    (run : Run (start name config) labels notes s) (step : s.step label = some (u, new)) :
    Solo name config labels notes s where
  run := run
  one := h.one.of_append
  undropped := fun op hop =>
    h.undropped op (operations_append labels [label] ▸ List.mem_append_left _ hop)
  succeeds := fun o ho => h.succeeds o (outcomes_append notes new ▸ List.mem_append_left _ ho)
  room := h.room.of_append
  ordered := by
    intro c hc
    -- A call that is out of order before the step would still be so behind it.
    by_contra spoils
    obtain ⟨i, hi⟩ := List.mem_iff_getElem?.1 hc
    have undropped : ∀ op ∈ operations labels, op ≠ .drop := fun op hop =>
      h.undropped op (operations_append labels [label] ▸ List.mem_append_left _ hop)
    obtain ⟨d, hd, later⟩ := (moves_of_step step).spoils
      (h.room (labels ++ [label]) [] _ _ (List.append_nil _).symm h.run)
      (h.room labels [label] _ _ rfl run) hi (run.not_implied undropped hi) (by simpa using spoils)
    exact absurd ((h.ordered d hd).symm.trans later) nofun

/-- What is true at the start and kept by each of the three kinds of steps is true at the end of
a run with one caller. `callers` stands for lists of calls that do not matter. -/
theorem Solo.follows
    {P : List (Operation α) → List (Note α) → Batch α → Caller α → Prop}
    (blank : P [] [] (start name config) (.done none))
    (begins : ∀ {ops notes s r} (op : Operation α) (callers : List (Caller α)), Sound s →
      op ≠ .drop → P ops notes s (.done r) →
      P (ops ++ [op]) notes { s with callers := callers } op.place)
    (caller : ∀ {ops notes new s t c c'} (callers : List (Caller α)), Sound s → c ∈ s.callers →
      c.implied = false → c'.spoils = false → Caller.Moves s c t c' new → P ops notes s c →
      P ops (notes ++ new) { t with callers := callers } c')
    (worker : ∀ {ops notes new s t w c}, Sound s → w.Healthy → s.worker.Moves s t w new →
      P ops notes s c →
      P ops (notes ++ new) { t with worker := w } c ∧
        P ops (notes ++ new) { t with worker := w } c.notify)
    (h : Solo name config labels notes s) : P (operations labels) notes s s.latest := by
  have run := h.run
  -- Along the run, with what the claim says of the latest call before each step.
  induction run with
  | nil => exact blank
  | @snoc t u labels notes new label run step ih =>
      have before := h.before run step
      have now := ih before
      have sound := before.sound
      have hm := moves_of_step step
      have healthy := h.sound.healthy
      rw [operations_append]
      cases hm with
      | begins op =>
          obtain ⟨r, returned⟩ := latest_of_returned (h.one labels op [] notes t rfl run)
          rw [returned] at now
          have kept : op ≠ .drop :=
            h.undropped op (operations_append labels _ ▸
              List.mem_append_right _ (List.mem_singleton_self _))
          have next := begins op (t.callers ++ [op.place]) sound kept now
          have latest : ({ t with callers := t.callers ++ [op.place] } : Batch α).latest =
              op.place := by
            simp [Batch.latest]
          rw [latest, List.append_nil]
          exact next
      | @caller i expired c c' v _ hc hm =>
          have moves : ∀ r, c ≠ .done r := by
            rintro r rfl
            cases hm
          obtain ⟨last, length⟩ := run.latest_moves before.one rfl hc moves
          rw [last] at now
          have callers := hm.frame.2.2.2
          have lt := (List.getElem?_eq_some_iff.1 hc).1
          have latest : ({ v with callers := v.callers.set i c' } : Batch α).latest = c' :=
            latest_eq (i := i) (by rw [callers, List.getElem?_set_self lt])
              (by rw [callers, List.length_set]; omega)
          have calm := h.ordered c' (callers ▸ List.mem_set lt c')
          have none : operations [Label.caller (α := α) i expired] = [] := rfl
          rw [latest, none, List.append_nil]
          exact caller _ sound (List.mem_of_getElem? hc) (run.not_implied before.undropped hc) calm
            hm now
      | @worker label v w _ quiet other hm =>
          have none : operations [label] = [] := by
            cases label with
            | begins op => exact absurd rfl (other op)
            | _ => rfl
          obtain ⟨same, woken⟩ := worker sound healthy.worker hm now
          rw [none, List.append_nil]
          obtain ⟨-, -, callers | callers⟩ := hm.frame
          · have latest : ({ v with worker := w } : Batch α).latest = t.latest := by
              rw [Batch.latest, callers]
              rfl
            rw [latest]
            exact same
          · have latest : ({ v with worker := w } : Batch α).latest = t.latest.notify := by
              rw [Batch.latest, callers, List.getLast?_map, Batch.latest]
              cases t.callers.getLast? <;> rfl
            rw [latest]
            exact woken

end Telemetry.Batch
