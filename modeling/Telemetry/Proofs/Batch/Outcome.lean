import Telemetry.Proofs.Batch.Flush

set_option autoImplicit false

/-! # Whose outcome a flush is told

The worker keeps one answer for all requests to flush: the outcome of its latest completion, be it a
pass for a flush, the final drain or a panic. A caller that was released looks at this answer when
its turn comes. So it is told the outcome of the latest completion by then, which served its request
or came behind the one that did. If another completion comes between, the caller does not see the
first one's outcome, not even its failure. -/

namespace Telemetry.Batch

variable {α : Type}

/-! ## Completions -/

/-- What the worker's next step answers: the number up to which requests are answered, and the
outcome. -/
def Worker.completion? (s : Batch α) : Worker α → Option (Nat × ProcessorResult)
  | .publishing number r => if s.control.flushCompleted < number then some (number, r) else none
  | .concluding r _ => some (s.control.flushRequested, r.toProcessor)
  | .unwinding => some (s.control.flushRequested, .error .workerTerminated)
  | _ => none

/-- What a step answers. -/
def completion? (s : Batch α) : Label α → Option (Nat × ProcessorResult)
  | .begins _ | .caller _ _ => none
  | _ => s.worker.completion? s

/-- The completions of a run along these labels, in order. -/
def completions (s : Batch α) : List (Label α) → List (Nat × ProcessorResult)
  | [] => []
  | label :: labels =>
    match s.step label with
    | some (t, _) => (s.completion? label).toList ++ t.completions labels
    | none => []

theorem completions_snoc {s t u : Batch α} {labels : List (Label α)} {label : Label α}
    {notes new : List (Note α)} (run : Run s labels notes t) (step : t.step label = some (u, new)) :
    s.completions (labels ++ [label]) = s.completions labels ++ (t.completion? label).toList := by
  induction labels generalizing s notes with
  | nil =>
      obtain ⟨rfl, -⟩ := Run.nil_iff.1 run
      simp only [List.nil_append, completions, step, List.append_nil]
  | cons first labels ih =>
      obtain ⟨v, n, n', begins, rest, -⟩ := Run.cons_iff.1 run
      simp only [List.cons_append, completions, begins, ih rest, List.append_assoc]

/-- A step of the worker that completes leaves its outcome as the answer; all others leave the
answer as it is. -/
theorem Worker.Moves.answer {s t : Batch α} {w w' : Worker α} {notes : List (Note α)}
    (h : w.Moves s t w' notes) :
    (t.control.flushCompleted, t.control.flushResult)
      = (w.completion? s).getD (s.control.flushCompleted, s.control.flushResult) := by
  cases h with
  | sweeps hw | endsSweep hw | unwindSweeps hw | endsUnwindSweep hw =>
      rw [hw.frame]
      rfl
  | publishes later =>
      rw [Worker.completion?, if_pos later]
      rfl
  | publishesNothing early =>
      rw [Worker.completion?, if_neg (Nat.not_lt.2 early)]
      rfl
  | _ => rfl

theorem Moves.answer {s u : Batch α} {label : Label α} {notes : List (Note α)}
    (h : s.Moves label u notes) :
    (u.control.flushCompleted, u.control.flushResult)
      = (s.completion? label).getD (s.control.flushCompleted, s.control.flushResult) := by
  cases h with
  | begins op => rfl
  | caller _ hm =>
      obtain ⟨completed, result, -⟩ := hm.flushControl
      rw [← completed, ← result]
      rfl
  | worker alone begun hm =>
      cases label with
      | begins op => exact absurd rfl (begun op)
      | caller i expired => cases alone
      | worker | ended | named => exact hm.answer

/-- The answer is the outcome of the latest completion. -/
theorem Run.answer {s t : Batch α} {labels : List (Label α)} {notes : List (Note α)}
    (run : Run s labels notes t) :
    (t.control.flushCompleted, t.control.flushResult)
      = (s.completions labels).getLast?.getD (s.control.flushCompleted, s.control.flushResult) := by
  induction run with
  | nil => rfl
  | @snoc t u labels notes new label run step ih =>
      rw [completions_snoc run step, (moves_of_step step).answer]
      cases t.completion? label with
      | none => rw [Option.toList_none, List.append_nil, Option.getD_none, ih]
      | some e => rw [Option.toList_some, List.getLast?_concat, Option.getD_some, Option.getD_some]

/-! ## What a caller is told -/

/-- How the caller of a request comes to its result, in a run from its registration on: a completion
served the request, and when the caller looked, `r` was the outcome of the latest completion. -/
def Told (number : Nat) (r : ProcessorResult) (u : Batch α) (labels : List (Label α)) : Prop :=
  ∃ before look after passed served later, labels = before ++ look :: after
    ∧ u.completions before = passed ++ served :: later
    ∧ (∀ e ∈ passed, e.1 < number) ∧ number ≤ served.1
    ∧ r = ((served :: later).getLast (List.cons_ne_nil _ _)).2

theorem Told.append {number : Nat} {r : ProcessorResult} {u : Batch α} {labels : List (Label α)}
    (told : Told number r u labels) (label : Label α) : Told number r u (labels ++ [label]) := by
  obtain ⟨before, look, after, passed, served, later, cut, rest⟩ := told
  refine ⟨before, look, after ++ [label], passed, served, later, ?_, rest⟩
  rw [cut, List.append_assoc, List.cons_append]

/-- The state in which a caller finds its request answered, and what it finds. -/
theorem Run.tells {number : Nat} {u y : Batch α} {labels : List (Label α)} {notes : List (Note α)}
    (run : Run u labels notes y) (unanswered : u.control.flushCompleted < number)
    (answered : number ≤ y.control.flushCompleted) (look : Label α) :
    Told number y.control.flushResult u (labels ++ [look]) := by
  have answer := run.answer
  cases last : (u.completions labels).getLast? with
  | none =>
      -- The answer is that of the registration, which has a lower number.
      rw [last, Option.getD_none, Prod.mk.injEq] at answer
      exact absurd (answer.1 ▸ answered) (Nat.not_le.2 unanswered)
  | some e =>
      rw [last, Option.getD_some] at answer
      have serves : decide (number ≤ e.1) = true := by
        rw [← answer]
        exact decide_eq_true answered
      have some : ((u.completions labels).find? fun e => number ≤ e.1).isSome = true :=
        List.find?_isSome.2 ⟨e, List.mem_of_getLast? last, serves⟩
      obtain ⟨served, first⟩ := Option.isSome_iff_exists.1 some
      obtain ⟨enough, passed, later, cut, lower⟩ := List.find?_eq_some_iff_append.1 first
      refine ⟨labels, look, [], passed, served, later, rfl, cut, ?_, of_decide_eq_true enough, ?_⟩
      · intro e there
        have := lower e there
        simpa using this
      · rw [cut, List.getLast?_append, List.getLast?_eq_some_getLast (List.cons_ne_nil _ _),
          Option.some_or, Option.some.injEq] at last
        rw [last, ← answer]

/-- The caller of a registered request waits until it is told the outcome of the latest completion,
or its time runs out. -/
theorem Run.told {f number : Nat} {limit : Duration} {u z : Batch α} {labels : List (Label α)}
    {notes : List (Note α)} (unanswered : u.control.flushCompleted < number)
    (waits : u.callers[f]? = some (.awaitingFlush number limit false))
    (run : Run u labels notes z) :
    (∃ notified, z.callers[f]? = some (.awaitingFlush number limit notified)) ∨
    ∃ r, z.callers[f]? = some (.done (some r))
      ∧ (r = .error (.timeout limit) ∨ Told number r u labels) := by
  induction run with
  | nil => exact .inl ⟨false, waits⟩
  | @snoc y z labels notes new label run step ih =>
      rcases ih with ⟨notified, waiting⟩ | ⟨r, returned, told⟩
      · have lt : f < y.callers.length := (List.getElem?_eq_some_iff.1 waiting).1
        rcases (moves_of_step step).caller_of_getElem? waiting with
          ⟨-, t, c, hm, rfl⟩ | ⟨-, same | woken⟩
        · cases hm with
          | looksAtFlush look =>
              cases look with
              | answered answered =>
                  have told := run.tells unanswered answered label
                  exact .inr ⟨_, List.getElem?_set_self lt, .inr told⟩
              | expired => exact .inr ⟨_, List.getElem?_set_self lt, .inl rfl⟩
              | waits => exact .inl ⟨false, List.getElem?_set_self lt⟩
        · exact .inl ⟨notified, same⟩
        · exact .inl ⟨true, woken⟩
      · exact .inr ⟨r, (moves_of_step step).done returned, told.imp_right (·.append label)⟩

/-- A new request is not answered yet. -/
theorem Requests.unanswered {f number : Nat} {limit : Duration} {p u : Batch α} {asks : Label α}
    (request : Requests f number limit p asks u) : u.control.flushCompleted < number := by
  obtain ⟨asks, step, waits, -⟩ := request
  have lt : f < p.callers.length := (List.getElem?_eq_some_iff.1 asks).1
  rcases (moves_of_step step).caller_of_getElem? asks with
    ⟨-, t, c, hm, rfl⟩ | ⟨-, same | woken⟩
  · rw [List.getElem?_set_self lt] at waits
    cases hm with
    | flushRefused => cases waits
    | requestsFlush running look =>
        cases look with
        | answered | expired => cases waits
        | waits early =>
            cases waits
            exact early
  · rw [same] at waits
    cases waits
  · rw [woken] at waits
    cases waits

/-- A flush that was registered, and does not run out of time, is told the outcome of the latest
completion behind the one that served it. -/
theorem flush_told_latest {f number : Nat} {limit : Duration} {p u z : Batch α} {asks : Label α}
    {labels : List (Label α)} {notes : List (Note α)} {r : ProcessorResult}
    (request : Requests f number limit p asks u) (run : Run u labels notes z)
    (returned : z.callers[f]? = some (.done (some r))) (patient : r ≠ .error (.timeout limit)) :
    Told number r u labels := by
  rcases run.told request.unanswered request.waits with ⟨notified, waiting⟩ | ⟨r', got, told⟩
  · rw [waiting] at returned
    cases returned
  · rw [got] at returned
    cases returned
    exact told.resolve_left patient

/-- Two callers flush, and the exporter's flush fails for the first one and not for the second one.
The first caller looks at its answer when both are served. -/
def lateLook : List (Label Nat) :=
  .begins (.flush (Duration.ofSecs 1)) :: List.replicate 2 (.caller 0 false) ++
    List.replicate 4 (.worker false) ++ .ended (.returned (.error .timeout)) :: .worker false ::
    .begins (.flush (Duration.ofSecs 1)) :: List.replicate 2 (.caller 1 false) ++
    List.replicate 5 (.worker false) ++ .ended (.returned (.ok ())) :: .worker false ::
    [.caller 0 false]

example : (start "logs" (smallest .dropNewest)).completions lateLook
    = [(1, .error (.exportFailed .timeout)), (2, .ok ())] := by
  decide +kernel

example : ((start "logs" (smallest .dropNewest)).follow lateLook).map (fun x => x.1.result? 0)
    = some (some (some (.ok ()))) := by
  decide +kernel

end Telemetry.Batch
