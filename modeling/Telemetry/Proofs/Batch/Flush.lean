import Telemetry.Proofs.Batch.Answers

set_option autoImplicit false

/-! # What a flush promises its caller

A caller registers its request in one step and waits for the answer to its number. Until that step
no task serves the request, so whatever releases the caller later is an answer to this request. The
call comes back with a result of the exporter only on an answer, never by way of its own deadline,
a panic or a shutdown that came first. -/

namespace Telemetry.Batch

variable {α : Type}

/-! ## Requests -/

/-- The results that the exporter gives: its success and its failure. -/
def IsExporters : ProcessorResult → Prop
  | .ok () | .error (.exportFailed _) => True
  | .error _ => False

/-- The step in which the caller at `f` registers its request to flush, and from which on it waits
for the answer to the request with the number. -/
structure Requests (f number : Nat) (limit : Duration) (p : Batch α) (label : Label α)
    (u : Batch α) : Prop where
  asks : p.callers[f]? = some (.requestingFlush limit)
  step : p.step label = some (u, [])
  waits : u.callers[f]? = some (.awaitingFlush number limit false)
  requested : u.control.flushRequested = number

/-- A new request has the highest number, and no task serves it yet. -/
theorem Numbered.registered {p : Batch α} (numbered : Numbered p)
    (running : p.control.shutdownRequested = false) (limit : Duration)
    (callers : List (Caller α)) :
    Registered (p.control.flushRequested + 1)
      { p.registerFlush limit with callers := callers } where
  unanswered := Nat.lt_succ_of_le numbered.answered
  running := running
  fresh := by
    intro n later task
    have before : p.worker.task? = some (.flush n) := (Worker.task?_woken p.worker).symm.trans task
    have served := numbered.served n before
    omega

/-- What the caller of a flush has got to: it has not asked yet, it has come back without a result
of the exporter, or its request was registered in a run that goes on from there. -/
inductive Asks (f : Nat) (limit : Duration) (s : Batch α) (labels : List (Label α))
    (notes : List (Note α)) (t : Batch α) : Prop where
  | begins : t.callers[f]? = some (.flushing limit) → Asks f limit s labels notes t
  | enters : t.callers[f]? = some (.requestingFlush limit) → Asks f limit s labels notes t
  | fails {r : ProcessorResult} : t.callers[f]? = some (.done (some r)) → ¬IsExporters r →
      Asks f limit s labels notes t
  | requests {before after : List (Label α)} {asks : Label α} {n n' : List (Note α)}
      {p u : Batch α} {number : Nat} :
      labels = before ++ asks :: after → notes = n ++ n' → Run s before n p →
      Requests f number limit p asks u → Registered number u → Run u after n' t →
      Asks f limit s labels notes t

/-- A step of the caller that is about to register its request. -/
theorem Run.asks_of_requesting {f : Nat} {limit : Duration} {s y z : Batch α}
    {labels : List (Label α)} {label : Label α} {notes new : List (Note α)}
    (run : Run s labels notes y) (numbered : Numbered y) (step : y.step label = some (z, new))
    (asks : y.callers[f]? = some (.requestingFlush limit)) :
    Asks f limit s (labels ++ [label]) (notes ++ new) z := by
  have lt : f < y.callers.length := (List.getElem?_eq_some_iff.1 asks).1
  rcases (moves_of_step step).caller_of_getElem? asks with ⟨-, t, c, hm, rfl⟩ | ⟨-, same | woken⟩
  · cases hm with
    | flushRefused => exact .fails (List.getElem?_set_self lt) id
    | requestsFlush running look =>
        cases look with
        | answered already =>
            -- No answer runs ahead of the requests.
            exact absurd numbered.answered (Nat.not_le.2 already)
        | expired => exact .fails (List.getElem?_set_self lt) id
        | waits =>
            exact .requests rfl rfl run ⟨asks, step, List.getElem?_set_self lt, rfl⟩
              (numbered.registered running limit _) (.nil _)
  · exact .enters same
  · exact .enters woken

/-- Every run in which a flush is called, from behind the beginning of the call. -/
theorem Run.asks {name : String} {config : BatchConfig} {f : Nat} {limit : Duration}
    {s t : Batch α} {l₀ labels : List (Label α)} {n₀ notes : List (Note α)}
    (run₀ : Run (start name config) l₀ n₀ s) (begun : s.callers[f]? = some (.flushing limit))
    (run : Run s labels notes t) : Asks f limit s labels notes t := by
  induction run with
  | nil => exact .begins begun
  | @snoc y z labels notes new label run step ih =>
      have hm := moves_of_step step
      cases ih with
      | begins flushing =>
          have lt : f < y.callers.length := (List.getElem?_eq_some_iff.1 flushing).1
          rcases hm.caller_of_getElem? flushing with ⟨-, t, c, moves, rfl⟩ | ⟨-, same | woken⟩
          · cases moves with
            | flushesLate =>
                exact .fails (List.getElem?_set_self lt) id
            | flushes => exact .enters (List.getElem?_set_self lt)
          · exact .begins same
          · exact .begins woken
      | enters asks => exact run.asks_of_requesting (run₀.append run).numbered step asks
      | fails returned other => exact .fails (hm.done returned) other
      | @requests before after asks n n' p u number cut shown first request registered rest =>
          refine .requests ?_ ?_ first request registered (.snoc rest step)
          · rw [cut, List.append_assoc, List.cons_append]
          · rw [shown, List.append_assoc]

/-- The caller of a registered request waits until it comes back, and a result of the exporter
means that its request was served. -/
theorem Run.awaits {name : String} {config : BatchConfig} {f number : Nat} {limit : Duration}
    {u z : Batch α} {l₀ labels : List (Label α)} {n₀ notes : List (Note α)}
    (run₀ : Run (start name config) l₀ n₀ u) (reg : Registered number u)
    (waits : u.callers[f]? = some (.awaitingFlush number limit false))
    (run : Run u labels notes z) :
    (∃ notified, z.callers[f]? = some (.awaitingFlush number limit notified)) ∨
    ∃ r, z.callers[f]? = some (.done (some r)) ∧
      (IsExporters r → Released number ((start name config).history l₀).accepted.length u labels
        ((start name config).history (l₀ ++ labels)) (n₀ ++ notes)) := by
  induction run with
  | nil => exact .inl ⟨false, waits⟩
  | @snoc y z labels notes new label run step ih =>
      have whole := run₀.append run
      rcases ih with ⟨notified, waiting⟩ | ⟨r, returned, released⟩
      · have lt : f < y.callers.length := (List.getElem?_eq_some_iff.1 waiting).1
        rcases (moves_of_step step).caller_of_getElem? waiting with
          ⟨-, t, c, hm, rfl⟩ | ⟨-, same | woken⟩
        · cases hm with
          | looksAtFlush look =>
              cases look with
              | answered answered =>
                  refine .inr ⟨_, List.getElem?_set_self lt, fun given => ?_⟩
                  -- A task may have answered, or a panic, whose answer is not the exporter's.
                  rcases run₀.answered reg run answered with released | ⟨panicked, -⟩
                  · exact released.step whole step
                  · rw [panicked] at given
                    exact given.elim
              | expired =>
                  exact .inr ⟨_, List.getElem?_set_self lt, False.elim⟩
              | waits => exact .inl ⟨false, List.getElem?_set_self lt⟩
        · exact .inl ⟨notified, same⟩
        · exact .inl ⟨true, woken⟩
      · exact .inr ⟨r, (moves_of_step step).done returned,
          fun given => (released given).step whole step⟩

/-- When a flush comes back with a result of the exporter, whether success or failure, each record
of a call that had returned before the flush was called is out of the queue; if it was accepted, it
was evicted, or it was handed to the exporter in a call that has ended. The request was registered
under a number; the task that answered it was taken up after that, flushed or shut down the
exporter, and answered when that call had ended. -/
theorem flush_answers_when_complete {name : String} {config : BatchConfig} {s t : Batch α}
    {l₁ l₂ : List (Label α)} {n₁ n₂ : List (Note α)} {limit : Duration} {r : ProcessorResult}
    {h : History α} (run₁ : Run (start name config) l₁ n₁ s)
    (run₂ : Run s (.begins (.flush limit) :: l₂) n₂ t)
    (returned : t.callers[s.callers.length]? = some (.done (some r))) (given : IsExporters r)
    (recorded : (start name config).history (l₁ ++ .begins (.flush limit) :: l₂) = h) :
    t.queue.items = (h.accepted.drop h.fates.length).map Prod.snd ∧
    (∀ (i k : Nat) (a : α) (r' : Option ProcessorResult), s.callers[i]? = some (.done r') →
      h.accepted[k]? = some (i, a) →
      k < h.fates.length ∧ h.Delivers (endedCalls (n₁ ++ n₂)) k a) ∧
    ∃ before asks after n p u number, l₂ = before ++ asks :: after ∧
      Run s (.begins (.flush limit) :: before) n p ∧
      Requests s.callers.length number limit p asks u ∧ Serves number u after := by
  subst recorded
  have whole := run₁.append run₂
  obtain ⟨s', new, n₂, begins, rest, rfl⟩ := Run.cons_iff.1 run₂
  cases begins
  have first : Run (start name config) (l₁ ++ [.begins (.flush limit)]) (n₁ ++ [])
      { s with callers := s.callers ++ [.flushing limit] } := .snoc run₁ rfl
  have begun : (s.callers ++ [Caller.flushing limit])[s.callers.length]? = some (.flushing limit) :=
    List.getElem?_concat_length
  cases first.asks begun rest with
  | begins flushing => rw [flushing] at returned; cases returned
  | enters asks => rw [asks] at returned; cases returned
  | fails failed other =>
      rw [failed] at returned
      cases returned
      exact absurd given other
  | @requests before after asks n n' p u number cut shown run request registered answer =>
      subst cut shown
      have middle := first.append (.snoc run request.step)
      rcases middle.awaits registered request.waits answer with ⟨_, waiting⟩ | ⟨r', got, released⟩
      · rw [waiting] at returned
        cases returned
      · rw [got] at returned
        cases returned
        obtain ⟨complete, serves⟩ := released given
        have labels : l₁ ++ [.begins (.flush limit)] ++ (before ++ [asks]) ++ after =
            l₁ ++ .begins (.flush limit) :: (before ++ asks :: after) := by simp
        have notes : n₁ ++ [] ++ (n ++ []) ++ n' = n₁ ++ ([] ++ (n ++ n')) := by simp
        rw [labels, notes] at complete
        have earlier := run₁.accepted_length_le ([.begins (.flush limit)] ++ (before ++ [asks]))
        rw [← List.append_assoc] at earlier
        refine ⟨whole.recorded.queued, ?_, before, asks, after, n, p, u, number, rfl,
          Run.cons_iff.2 ⟨_, [], n, rfl, run, rfl⟩, request, serves⟩
        intro i k a r' done accepted
        have lt := Nat.lt_of_lt_of_le (run₁.accepted_before run₂ done accepted) earlier
        exact ⟨Nat.lt_of_lt_of_le lt complete.settles.1,
          complete.delivers whole.recorded lt accepted⟩

/-- The caller of a flush asks for it, the worker exports what is queued, flushes the exporter and
answers, and the caller sees the answer. -/
def oneFlush : List (Label Nat) :=
  List.replicate 2 (.caller 1 false) ++ List.replicate 5 (.worker false) ++
    .ended (.returned (.ok ())) :: List.replicate 3 (.worker false) ++
    .ended (.returned (.ok ())) :: List.replicate 2 (.worker false) ++ [.caller 1 false]

theorem flush_answers_when_complete_of_one :
    ∃ (t s : Batch Nat) (n₁ n₂ : List (Note Nat)) (r : Option ProcessorResult),
      Run (start "logs" (smallest .dropNewest)) oneRecord n₁ s ∧
      Run s (.begins (.flush (Duration.ofSecs 1)) :: oneFlush) n₂ t ∧
      t.callers[s.callers.length]? = some (.done (some (.ok ()))) ∧ IsExporters (.ok ()) ∧
      s.callers[0]? = some (.done r) ∧
      ((start "logs" (smallest .dropNewest)).history
        (oneRecord ++ .begins (.flush (Duration.ofSecs 1)) :: oneFlush)).accepted[0]?
        = some (0, 1) ∧
      ((start "logs" (smallest .dropNewest)).history
        (oneRecord ++ .begins (.flush (Duration.ofSecs 1)) :: oneFlush)).Delivers
        (endedCalls (n₁ ++ n₂)) 0 1 := by
  obtain ⟨t, notes, run, answered⟩ := exists_run (start "logs" (smallest .dropNewest))
    (oneRecord ++ .begins (.flush (Duration.ofSecs 1)) :: oneFlush)
    (fun t _ => t.result? 1 = some (some (.ok ()))) (by decide +kernel)
  obtain ⟨s, n₁, n₂, run₁, run₂, rfl⟩ := run.split
  have one := run₁.test (fun s _ => s.callers.length == 1) (by decide +kernel)
  have returned := run₁.test (fun s _ => (s.result? 0).isSome) (by decide +kernel)
  have accepted :
      ((start "logs" (smallest .dropNewest)).history
        (oneRecord ++ .begins (.flush (Duration.ofSecs 1)) :: oneFlush)).accepted[0]?
        = some (0, 1) := by decide +kernel
  rw [beq_iff_eq] at one
  have given : IsExporters (.ok ()) := trivial
  obtain ⟨r, done⟩ := Option.isSome_iff_exists.1 returned
  have done := callers_of_result? done
  have answer := callers_of_result? (of_decide_eq_true answered)
  rw [← one] at answer
  have complete := flush_answers_when_complete run₁ run₂ answer given rfl
  exact ⟨t, s, n₁, n₂, r, run₁, run₂, answer, given, done, accepted,
    (complete.2.1 0 0 1 r done accepted).2⟩

end Telemetry.Batch
