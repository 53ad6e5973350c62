import Telemetry.Proofs.Batch.Conclusion

set_option autoImplicit false

/-! # When the time of a call runs out

A call that waits looks at the answer first and at the clock second. So its time runs out only in a
look that finds no answer, and it comes back with the time that it was given itself. No answer of
the worker says that a time has run out. -/

namespace Telemetry.Batch

variable {α : Type}

/-! ## What the worker answers -/

/-- The results that the worker gives: what the exporter answered, or that the worker is gone. -/
def isAnswer : ProcessorResult → Bool
  | .ok () | .error (.exportFailed _) | .error .workerTerminated => true
  | .error (.timeout _) | .error .alreadyShutdown => false

theorem isAnswer_toProcessor (r : ExportResult) : isAnswer r.toProcessor = true := by
  cases r <;> rfl

/-- The answer that the worker is about to give to requests to flush. -/
def Worker.answer? : Worker α → Option ProcessorResult
  | .publishing _ r => some r
  | _ => none

theorem Worker.answer?_woken (w : Worker α) : w.woken.answer? = w.answer? := by
  cases w <;> rfl

/-- The answers that are there and the one that is on its way are the worker's own. -/
structure Genuine (s : Batch α) : Prop where
  flush : isAnswer s.control.flushResult = true
  shutdown : ∀ r, s.control.shutdownResult = some r → isAnswer r = true
  worker : ∀ r, s.worker.answer? = some r → isAnswer r = true

theorem Caller.Moves.genuine {s t : Batch α} {c c' : Caller α} {notes : List (Note α)}
    (h : c.Moves s t c' notes) (hs : Genuine s) : Genuine t where
  flush := by
    rw [h.flushControl.2.1]
    exact hs.flush
  shutdown := by
    rw [h.shutdownResult]
    exact hs.shutdown
  worker := by
    rw [h.worker_eq Worker.answer? Worker.answer?_woken]
    exact hs.worker

theorem Worker.Moves.genuine {s t : Batch α} {w' : Worker α} {notes : List (Note α)}
    (h : s.worker.Moves s t w' notes) (hs : Genuine s) : Genuine { t with worker := w' } := by
  obtain ⟨flush, shutdown, worker⟩ := hs
  generalize s.worker = w at h worker
  cases h with
  | sweeps hw | endsSweep hw | unwindSweeps hw | endsUnwindSweep hw =>
      rw [hw.frame]
      exact ⟨flush, shutdown, nofun⟩
  | flushed =>
      refine ⟨flush, shutdown, fun r now => ?_⟩
      rw [← Option.some.inj now]
      exact isAnswer_toProcessor _
  | publishes => exact ⟨worker _ rfl, shutdown, nofun⟩
  | concludes =>
      refine ⟨isAnswer_toProcessor _, fun r now => ?_, nofun⟩
      rw [← Option.some.inj now]
      exact isAnswer_toProcessor _
  | unwinds =>
      refine ⟨rfl, fun r now => ?_, nofun⟩
      rw [← Option.some.inj now]
      rfl
  | _ => exact ⟨flush, shutdown, nofun⟩

theorem Run.genuine {name : String} {config : BatchConfig} {s : Batch α}
    {labels : List (Label α)} {notes : List (Note α)}
    (run : Run (start name config) labels notes s) : Genuine s := by
  refine run.preserves (p := Genuine) ?_ ⟨rfl, nofun, nofun⟩
  intro s u label notes hs hm
  cases hm with
  | begins op => exact ⟨hs.flush, hs.shutdown, hs.worker⟩
  | caller _ hm =>
      have next := hm.genuine hs
      exact ⟨next.flush, next.shutdown, next.worker⟩
  | worker _ _ hm => exact hm.genuine hs

/-! ## Running out of time -/

/-- The time that has run out, if that is the result. -/
def timeout? : ProcessorResult → Option Duration
  | .error (.timeout limit) => some limit
  | _ => none

theorem timeout?_of_isAnswer {r : ProcessorResult} (h : isAnswer r = true) : timeout? r = none := by
  unfold isAnswer at h
  split at h
  · rfl
  · rfl
  · rfl
  · cases h
  · cases h

/-- The time that a call has found to have run out. -/
def Caller.overdue? : Caller α → Option Duration
  | .claiming r _ | .joining r _ | .leaving r _ | .done (some r) => timeout? r
  | _ => none

@[simp] theorem Caller.overdue?_notify (c : Caller α) : c.notify.overdue? = c.overdue? := by
  cases c <;> rfl

theorem Operation.overdue?_place (op : Operation α) : op.place.overdue? = none := by
  cases op <;> rfl

/-- A look at the answer that finds none, of a call that allows a certain time: the call waits, or
it registers its request in the same step. -/
inductive Caller.Misses (s : Batch α) (limit : Duration) : Caller α → Prop where
  | requestsFlush : s.control.shutdownRequested = false →
      s.control.flushCompleted < s.control.flushRequested + 1 →
      Misses s limit (.requestingFlush limit)
  | awaitsFlush {number : Nat} {notified : Bool} : s.control.flushCompleted < number →
      Misses s limit (.awaitingFlush number limit notified)
  | closes {implied : Bool} : s.control.shutdownResult = none →
      Misses s limit (.closing limit implied)
  | awaitsShutdown {implied notified : Bool} : s.control.shutdownResult = none →
      Misses s limit (.awaitingShutdown limit implied notified)

/-- Only a look that finds no answer makes a call late. -/
theorem Caller.Moves.overdue {s t : Batch α} {c c' : Caller α} {notes : List (Note α)}
    {limit : Duration} (h : c.Moves s t c' notes) (genuine : Genuine s)
    (late : c'.overdue? = some limit) : c.overdue? = some limit ∨ c.Misses s limit := by
  have answered {r : ProcessorResult} (answer : isAnswer r = true) : timeout? r ≠ some limit := by
    rw [timeout?_of_isAnswer answer]
    exact nofun
  cases h with
  | requestsFlush running look =>
      cases look with
      | answered => exact absurd late (answered genuine.flush)
      | expired unanswered =>
          cases late
          exact .inr (.requestsFlush running unanswered)
      | waits => cases late
  | looksAtFlush look =>
      cases look with
      | answered => exact absurd late (answered genuine.flush)
      | expired unanswered =>
          cases late
          exact .inr (.awaitsFlush unanswered)
      | waits => cases late
  | closesAgain _ look | closes _ look =>
      cases look with
      | answered answer => exact absurd late (answered (genuine.shutdown _ answer))
      | expired unanswered =>
          cases late
          exact .inr (.closes unanswered)
      | waits => cases late
  | looksAtShutdown look =>
      cases look with
      | answered answer => exact absurd late (answered (genuine.shutdown _ answer))
      | expired unanswered =>
          cases late
          exact .inr (.awaitsShutdown unanswered)
      | waits => cases late
  | claims | claimsAgain | joins | leaves => exact .inl late
  | _ => cases late

/-! ## The two ways on -/

/-- Whether a note is a report. -/
def Note.isEvent : Note α → Bool
  | .event _ => true
  | _ => false

/-- What notes show apart from reports: the calls on the exporter and their ends, and the records
that were accepted and lost. -/
def shown (notes : List (Note α)) : List (Note α) :=
  notes.filter fun note => !note.isEvent

@[simp] theorem shown_append (notes new : List (Note α)) :
    shown (notes ++ new) = shown notes ++ shown new :=
  List.filter_append ..

/-- A call that has a result, and that no other thread has to wait for. -/
def Caller.isOver : Caller α → Bool
  | .leaving _ _ | .done _ => true
  | _ => false

/-- A call whose request is registered and that has no result or one that the worker has given. -/
def Caller.persists : Caller α → Bool
  | .awaitingFlush _ _ _ | .awaitingShutdown _ _ _ | .done none => true
  | .claiming r _ | .joining r _ | .leaving r _ | .done (some r) => isAnswer r
  | _ => false

/-- When a look finds no answer, the call comes back with its own time or goes on waiting, as its
time is up or not. Otherwise the two steps do the same. -/
theorem Caller.Misses.steps {s : Batch α} {c : Caller α} {limit : Duration}
    (h : c.Misses s limit) :
    ∃ t gone waiting notes notes', c.step s true = some ⟨t, gone, notes⟩ ∧
      c.step s false = some ⟨t, waiting, notes'⟩ ∧
      gone.isOver = true ∧ gone.overdue? = some limit ∧ waiting.persists = true ∧
      waiting.overdue? = none ∧ shown notes = [] ∧ shown notes' = [] := by
  cases h with
  | requestsFlush running unanswered =>
      have none := Nat.not_le.2 unanswered
      simp only [step, requestFlush, running, lookAtFlush, none]
      exact ⟨_, _, _, _, _, rfl, rfl, rfl, rfl, rfl, rfl, rfl, rfl⟩
  | awaitsFlush unanswered =>
      have none := Nat.not_le.2 unanswered
      simp only [step, lookAtFlush, none]
      exact ⟨_, _, _, _, _, rfl, rfl, rfl, rfl, rfl, rfl, rfl, rfl⟩
  | closes unanswered =>
      simp only [step, requestShutdown]
      cases s.control.shutdownRequested with
      | true =>
          simp only [lookAtShutdown, unanswered]
          exact ⟨_, _, _, _, _, rfl, rfl, rfl, rfl, rfl, rfl, rfl, rfl⟩
      | false =>
          simp only [lookAtShutdown, unanswered]
          exact ⟨_, _, _, _, _, rfl, rfl, rfl, rfl, rfl, rfl, rfl, rfl⟩
  | awaitsShutdown unanswered =>
      simp only [step, lookAtShutdown, unanswered]
      exact ⟨_, _, _, _, _, rfl, rfl, rfl, rfl, rfl, rfl, rfl, rfl⟩

/-- A step makes a call late only if the call's time is up and the look finds no answer. -/
theorem Caller.misses_of_step {s : Batch α} {c : Caller α} {expired : Bool} {limit : Duration}
    {m : Move α (Caller α)} (h : c.step s expired = some m) (genuine : Genuine s)
    (late : m.place.overdue? = some limit) :
    c.overdue? = some limit ∨ expired = true ∧ c.Misses s limit := by
  refine ((moves_of_step h).overdue genuine late).imp_right fun misses => ⟨?_, misses⟩
  cases expired with
  | true => rfl
  | false =>
      obtain ⟨_, _, _, _, _, -, waits, -, -, -, calm, -⟩ := misses.steps
      rw [h] at waits
      cases waits
      exact absurd (calm.symm.trans late) nofun

/-! ## Along a run -/

theorem step_caller_iff {s u : Batch α} {i : Nat} {expired : Bool} {notes : List (Note α)} :
    s.step (.caller i expired) = some (u, notes) ↔
      ∃ c m, s.callers[i]? = some c ∧ c.step s expired = some m ∧
        (u, notes) = moveCaller i m := by
  simp only [step, Option.bind_eq_bind, Option.bind_eq_some_iff, Option.pure_def,
    Option.some.injEq]
  constructor
  · rintro ⟨c, hc, m, hm, same⟩
    exact ⟨c, m, hc, hm, same.symm⟩
  · rintro ⟨c, m, hc, hm, same⟩
    exact ⟨c, hc, m, hm, same.symm⟩

/-- A call is late because it was so before, or because it has found no answer in this step, at
which its time was up. -/
theorem overdue_of_step {s u : Batch α} {label : Label α} {notes : List (Note α)} {i : Nat}
    {c' : Caller α} {limit : Duration} (genuine : Genuine s)
    (step : s.step label = some (u, notes)) (hc' : u.callers[i]? = some c')
    (late : c'.overdue? = some limit) :
    ∃ c, s.callers[i]? = some c ∧
      (c.overdue? = some limit ∨ label = .caller i true ∧ c.Misses s limit) := by
  rcases (moves_of_step step).caller_from hc' with ⟨op, -, -, rfl, -⟩ | ⟨c, hc, from_c⟩
  · rw [op.overdue?_place] at late
    cases late
  · refine ⟨c, hc, ?_⟩
    rcases from_c with ⟨mine, -⟩ | ⟨-, rfl | rfl⟩
    · cases label with
      | caller j expired =>
          obtain rfl := Option.some.inj mine
          obtain ⟨d, m, hd, hm, moved⟩ := step_caller_iff.1 step
          obtain rfl := Option.some.inj (hc.symm.trans hd)
          cases moved
          have lt : j < m.state.callers.length := by
            simpa using (List.getElem?_eq_some_iff.1 hc').1
          obtain rfl : m.place = c' := by simpa [List.getElem?_set_self lt] using hc'
          refine (Caller.misses_of_step hm genuine late).imp_right fun ⟨up, misses⟩ => ?_
          exact ⟨by rw [up], misses⟩
      | _ => cases mine
    · exact .inl late
    · exact .inl (c.overdue?_notify ▸ late)

/-- A call that has come back late found no answer in a look at which its time was up. -/
theorem Run.misses {name : String} {config : BatchConfig} {s : Batch α} {labels : List (Label α)}
    {notes : List (Note α)} (run : Run (start name config) labels notes s) {i : Nat}
    {c : Caller α} {limit : Duration} (hc : s.callers[i]? = some c)
    (late : c.overdue? = some limit) :
    ∃ before after n p d, labels = before ++ .caller i true :: after ∧
      Run (start name config) before n p ∧ p.callers[i]? = some d ∧ d.Misses p limit := by
  induction run generalizing c with
  | nil => cases hc
  | @snoc s u labels notes new label run step ih =>
      obtain ⟨d, hd, earlier | ⟨rfl, misses⟩⟩ := overdue_of_step run.genuine step hc late
      · obtain ⟨before, after, n, p, e, rfl, first, he, misses⟩ := ih hd earlier
        exact ⟨before, after ++ [label], n, p, e, by simp, first, he, misses⟩
      · exact ⟨labels, [], notes, s, d, rfl, run, hd, misses⟩

/-! ## Whose time it is -/

/-- The time that a call allows for a flush. -/
def Caller.flushLimit? : Caller α → Option Duration
  | .flushing limit | .requestingFlush limit | .awaitingFlush _ limit _ => some limit
  | _ => none

theorem Caller.flushLimit?_notify (c : Caller α) : c.notify.flushLimit? = c.flushLimit? := by
  cases c <;> rfl

/-- Where a call may be: only those that flush do so, within their own time, and they come back with
a result. -/
def Caller.Flushing (c : Caller α) : Operation α → Prop
  | .flush limit => c.flushLimit? = some limit ∨ ∃ r, c = .done (some r)
  | _ => c.flushLimit? = none

theorem Caller.Flushing.notify {c : Caller α} {op : Operation α} (h : c.Flushing op) :
    c.notify.Flushing op := by
  cases op with
  | flush limit =>
      rcases h with waits | ⟨r, rfl⟩
      · exact .inl (c.flushLimit?_notify.trans waits)
      · exact .inr ⟨r, rfl⟩
  | _ => exact c.flushLimit?_notify.trans h

theorem Caller.Moves.flushing {s t : Batch α} {c c' : Caller α} {notes : List (Note α)}
    {op : Operation α} (h : c.Moves s t c' notes) (hc : c.Flushing op) : c'.Flushing op := by
  -- A call that flushes goes on within its time or returns; all others come to no such place.
  have goesOn : c'.flushLimit? = c.flushLimit? ∨
      c'.flushLimit? = none ∧ (c.flushLimit? = none ∨ ∃ r, c' = .done (some r)) := by
    cases h with
    | flushesLate | flushRefused => exact .inr ⟨rfl, .inr ⟨_, rfl⟩⟩
    | requestsFlush _ look | looksAtFlush look =>
        cases look with
        | waits => exact .inl rfl
        | _ => exact .inr ⟨rfl, .inr ⟨_, rfl⟩⟩
    | closesAgain _ look | closes _ look | looksAtShutdown look => cases look <;> exact .inl rfl
    | _ => exact .inl rfl
  cases op with
  | flush limit =>
      rcases hc with waits | ⟨r, rfl⟩
      · rcases goesOn with same | ⟨-, away | back⟩
        · exact .inl (same.trans waits)
        · exact absurd (away.symm.trans waits) nofun
        · exact .inr back
      · cases h
  | _ =>
      rcases goesOn with same | ⟨away, -⟩
      · exact same.trans hc
      · exact away

theorem Run.flushing {name : String} {config : BatchConfig} {s : Batch α}
    {labels : List (Label α)} {notes : List (Note α)}
    (run : Run (start name config) labels notes s) {i : Nat} {op : Operation α} {c : Caller α}
    (hop : (operations labels)[i]? = some op) (hc : s.callers[i]? = some c) : c.Flushing op := by
  refine run.follows_calls (q := fun _ => True) (p := fun op _ c => c.Flushing op)
    (fun _ => trivial) ?begins ?moves ?others hop ((Nat.zero_add i).symm ▸ hc)
  case begins =>
    intro u op _
    cases op with
    | flush limit => exact .inl rfl
    | _ => rfl
  case moves => exact fun _ _ before hm => hm.flushing before
  case others => exact fun _ _ before => ⟨before, before.notify⟩

theorem Run.operation_of_flushing {name : String} {config : BatchConfig} {s : Batch α}
    {labels : List (Label α)} {notes : List (Note α)}
    (run : Run (start name config) labels notes s) {i : Nat} {op : Operation α} {c : Caller α}
    {limit : Duration} (hop : (operations labels)[i]? = some op) (hc : s.callers[i]? = some c)
    (flushes : c.flushLimit? = some limit) : op = .flush limit := by
  have flushing := run.flushing hop hc
  cases op with
  | flush limit' =>
      rcases flushing with waits | ⟨r, rfl⟩
      · exact congrArg Operation.flush (Option.some.inj (waits.symm.trans flushes))
      · cases flushes
  | _ => exact absurd (flushes.symm.trans flushing) nofun

/-- A call that finds no answer in a look does so with its own time. -/
theorem Run.operation_of_misses {name : String} {config : BatchConfig} {s : Batch α}
    {labels : List (Label α)} {notes : List (Note α)}
    (run : Run (start name config) labels notes s) {i : Nat} {op : Operation α} {c : Caller α}
    {limit : Duration} (hop : (operations labels)[i]? = some op) (hc : s.callers[i]? = some c)
    (misses : c.Misses s limit) :
    op = .flush limit ∧ c.closes = false ∨
      (op = .shutdown limit ∨ op = .drop) ∧ c.closes = true := by
  have closing (closes : c.closes = true)
      (own : ∀ r own, c.Ending r own false → own = limit) :
      op = .shutdown limit ∨ op = .drop := by
    have ends := run.ends hop hc
    cases op with
    | shutdown limit' =>
        obtain ⟨r, ending, -⟩ := ends
        exact .inl (congrArg Operation.shutdown (own r limit' ending))
    | drop => exact .inr rfl
    | _ => exact absurd (closes.symm.trans ends) nofun
  cases misses with
  | requestsFlush | awaitsFlush => exact .inl ⟨run.operation_of_flushing hop hc rfl, rfl⟩
  | closes => exact .inr ⟨closing rfl fun r own ending => by cases ending; rfl, rfl⟩
  | awaitsShutdown => exact .inr ⟨closing rfl fun r own ending => by cases ending; rfl, rfl⟩

/-- A call that returns that a time has run out was given that time, and found no answer in a look
at which the time was up. -/
theorem Run.timed_out {name : String} {config : BatchConfig} {s : Batch α}
    {labels : List (Label α)} {notes : List (Note α)}
    (run : Run (start name config) labels notes s) {i : Nat} {limit : Duration}
    (late : s.result? i = some (some (.error (.timeout limit)))) :
    ∃ before after n p c, labels = before ++ .caller i true :: after ∧
      Run (start name config) before n p ∧ p.callers[i]? = some c ∧ c.Misses p limit ∧
      ((operations labels)[i]? = some (.flush limit) ∧ c.closes = false ∨
        (operations labels)[i]? = some (.shutdown limit) ∧ c.closes = true) := by
  have done := callers_of_result? late
  obtain ⟨before, after, n, p, c, rfl, first, hc, misses⟩ := run.misses done rfl
  refine ⟨before, after, n, p, c, rfl, first, hc, misses, ?_⟩
  obtain ⟨op, hop⟩ := first.exists_operation hc
  have asked : (operations (before ++ .caller i true :: after))[i]? = some op := by
    rw [operations_append, List.getElem?_append_left (List.getElem?_eq_some_iff.1 hop).1, hop]
  rw [asked]
  rcases first.operation_of_misses hop hc misses with ⟨rfl, flushes⟩ | ⟨rfl | rfl, closes⟩
  · exact .inl ⟨rfl, flushes⟩
  · exact .inr ⟨rfl, closes⟩
  · -- The shutdown of a drop returns nothing.
    rcases run.ends asked done with away | away | ⟨r, ending, -⟩
    · cases away
    · cases away
    · cases ending with
      | returns plain => cases plain

end Telemetry.Batch
