import Telemetry.Proofs.Batch.Conclusion

set_option autoImplicit false

/-! # Behind the shutdown

Once shutdown is requested nothing new comes in: a call that brings a record counts it as refused
and does nothing else, a call that flushes is sent away. Once the worker has ended, the exporter is
left alone. -/

namespace Telemetry.Batch

variable {α : Type}

/-! ## The exporter is left alone -/

theorem Moves.calls_of_finished {s u : Batch α} {label : Label α} {notes : List (Note α)}
    (h : s.Moves label u notes) (done : s.worker.finished = true) :
    calls notes = [] ∧ u.worker.finished = true := by
  cases h with
  | begins op => exact ⟨rfl, done⟩
  | caller _ hm =>
      exact ⟨hm.silent.1, (hm.worker_eq Worker.finished Worker.finished_woken).trans done⟩
  | worker _ _ hm =>
      rcases hm.begins with ⟨none, stays⟩ | ⟨_, -, -, running⟩ | ⟨_, -, running, -⟩
      · exact ⟨none, stays done⟩
      · exact absurd (running.symm.trans done) nofun
      · exact absurd (running.symm.trans done) nofun

/-- A worker that has shut the exporter down, or that a panic ends, calls it no more. -/
theorem Run.calls_of_finished {s t : Batch α} {labels : List (Label α)} {notes : List (Note α)}
    (run : Run s labels notes t) (done : s.worker.finished = true) :
    calls notes = [] ∧ t.worker.finished = true := by
  induction run with
  | nil => exact ⟨rfl, done⟩
  | snoc _ step ih =>
      obtain ⟨none, finished⟩ := ih
      obtain ⟨none', finished'⟩ := (moves_of_step step).calls_of_finished finished
      exact ⟨by rw [calls_append, none, none', List.append_nil], finished'⟩

/-! ## Calls that come late -/

/-- The places of a call that begins behind the request to shut down, in their order. -/
def Operation.refusal : Operation α → List (Caller α)
  | .receive a => [.receiving a, .refusing a, .discardingLate a, .done none]
  | .flush limit => [.flushing limit, .done (some (.error .alreadyShutdown))]
  | _ => []

/-- The rules of such a call. All that ever changes is the count of refused records, by one. -/
inductive Caller.Refuses (s : Batch α) :
    Caller α → Batch α → Caller α → List (Note α) → Prop where
  | comesLate {a : α} : Refuses s (.receiving a) s (.refusing a) []
  | countsLate {a : α} :
      Refuses s (.refusing a) (s.count fun c => c.dropLate 1) (.discardingLate a) []
  | discardsLate {a : α} : Refuses s (.discardingLate a) s (.done none) [.lost a]
  | flushesLate {limit : Duration} :
      Refuses s (.flushing limit) s (.done (some (.error .alreadyShutdown))) []

theorem Caller.Moves.refuses {s t : Batch α} {op : Operation α} {c c' : Caller α}
    {notes : List (Note α)} (h : c.Moves s t c' notes) (late : s.isShutdown = true)
    (hc : c ∈ op.refusal) : c.Refuses s t c' notes ∧ c' ∈ op.refusal := by
  cases op with
  | receive a =>
      simp only [Operation.refusal, List.mem_cons, List.not_mem_nil, or_false] at hc
      rcases hc with rfl | rfl | rfl | rfl
      · cases h with
        | comesLate => exact ⟨.comesLate, by simp [Operation.refusal]⟩
        | enters open_ => exact absurd (open_.symm.trans late) nofun
      · cases h with | countsLate => exact ⟨.countsLate, by simp [Operation.refusal]⟩
      · cases h with | discardsLate => exact ⟨.discardsLate, by simp [Operation.refusal]⟩
      · cases h
  | flush limit =>
      simp only [Operation.refusal, List.mem_cons, List.not_mem_nil, or_false] at hc
      rcases hc with rfl | rfl
      · cases h with
        | flushesLate => exact ⟨.flushesLate, by simp [Operation.refusal]⟩
        | flushes open_ => exact absurd (open_.symm.trans late) nofun
      · cases h
  | _ => cases hc

theorem Operation.notify_of_mem_refusal {op : Operation α} {c : Caller α} (h : c ∈ op.refusal) :
    c.notify = c := by
  cases op with
  | receive a =>
      simp only [refusal, List.mem_cons, List.not_mem_nil, or_false] at h
      rcases h with rfl | rfl | rfl | rfl <;> rfl
  | flush limit =>
      simp only [refusal, List.mem_cons, List.not_mem_nil, or_false] at h
      rcases h with rfl | rfl <;> rfl
  | _ => cases h

theorem Moves.isShutdown {s u : Batch α} {label : Label α} {notes : List (Note α)}
    (h : s.Moves label u notes) (hs : s.isShutdown = true) : u.isShutdown = true := by
  cases h with
  | begins op => exact hs
  | caller _ hm =>
      rcases hm.shutdownRequested with ⟨same, -⟩ | ⟨now, -⟩
      · exact same.trans hs
      · exact now
  | worker _ _ hm =>
      rcases hm.shutdownRequested with ⟨same, -⟩ | ⟨now, -⟩
      · exact same.trans hs
      · exact now

theorem Run.isShutdown {s t : Batch α} {labels : List (Label α)} {notes : List (Note α)}
    (run : Run s labels notes t) (hs : s.isShutdown = true) : t.isShutdown = true :=
  run.preserves (p := fun t => t.isShutdown = true) (fun ht hm => hm.isShutdown ht) hs

/-- A call that begins behind the request to shut down is at one of the places for late calls. -/
theorem Run.mem_refusal {s t : Batch α} {labels : List (Label α)} {notes : List (Note α)}
    (run : Run s labels notes t) (late : s.isShutdown = true) {i : Nat} {op : Operation α}
    {c : Caller α} (hop : (operations labels)[i]? = some op) (refused : op.refusal ≠ [])
    (hc : t.callers[s.callers.length + i]? = some c) : c ∈ op.refusal := by
  refine run.follows_calls (q := fun u => u.isShutdown = true)
    (p := fun op _ c => op.refusal ≠ [] → c ∈ op.refusal) (fun run => run.isShutdown late)
    ?begins ?moves ?others hop hc refused
  case begins =>
    intro u op _ refused
    cases op with
    | receive a => exact List.mem_cons_self
    | flush limit => exact List.mem_cons_self
    | _ => exact absurd rfl refused
  case moves => exact fun late _ before hm refused => (hm.refuses late (before refused)).2
  case others =>
    intro u v label new op c _ _ before
    refine ⟨before, fun refused => ?_⟩
    rw [Operation.notify_of_mem_refusal (before refused)]
    exact before refused

/-! ## Calls that wait -/

/-- The only step that a caller may have to wait for is the one behind the worker's end. -/
theorem Caller.waits_of_step_eq_none {s : Batch α} {c : Caller α} {expired : Bool}
    (h : c.step s expired = none) :
    (∃ r, c = .done r) ∨
      (∃ r implied, c = .joining r implied) ∧ ∀ panicked, s.worker ≠ .stopped panicked := by
  cases c with
  | done r => exact .inl ⟨r, rfl⟩
  | joining r implied =>
      refine .inr ⟨⟨r, implied, rfl⟩, fun panicked stopped => ?_⟩
      simp only [step, stopped] at h
      cases h
  | offering a =>
      simp only [step] at h
      split at h
      · cases h
      · split at h <;> cases h
  | evicting a =>
      simp only [step] at h
      split at h <;> cases h
  | sweeping w =>
      simp only [step] at h
      split at h <;> cases h
  | leaving r implied => cases implied <;> cases h
  | _ => cases h

theorem waits_of_step_eq_none {s : Batch α} {i : Nat} {c : Caller α} {expired : Bool}
    (hc : s.callers[i]? = some c) (h : s.step (.caller i expired) = none) :
    (∃ r, c = .done r) ∨
      (∃ r implied, c = .joining r implied) ∧ ∀ panicked, s.worker ≠ .stopped panicked := by
  cases hs : c.step s expired with
  | none => exact Caller.waits_of_step_eq_none hs
  | some m => simp [step, hc, hs] at h

/-! ## The shutdown -/

theorem Caller.Closing.result {answer : Option ProcessorResult} {limit : Duration}
    {r : Option ProcessorResult} (h : Caller.Closing answer limit false (.done r : Caller α)) :
    ∃ r', r = some r' ∧ (answer = some r' ∨ r' = .error (.timeout limit)) := by
  obtain ⟨r', ending, result⟩ := h
  cases ending with
  | returns => exact ⟨r', rfl, result.imp_right And.right⟩
  | returnsNothing implied => cases implied

/-- There is one shutdown. The exporter is shut down at most once, as the last thing it is asked
for, within the time of the call whose request came first. A call that shuts down comes back with
its own time run out or with the one answer, and so does the shutdown of a drop. Flags and numbers
fit together, and only the worker's end is worth waiting for. From here on, answers are not taken
back; and when the worker has ended, there is an answer, the exporter is left alone, and calls that
begin then are refused, which changes nothing but the count of refused records. -/
theorem shutdown_is_final {name : String} {config : BatchConfig} {s : Batch α}
    {labels : List (Label α)} {notes : List (Note α)}
    (run : Run (start name config) labels notes s) :
    (∃ before last, calls notes = before ++ last ∧ (∀ r ∈ before, r.kind ≠ .close) ∧
      (last = [] ∨
        ∃ limit, last = [.close limit] ∧ FirstRequest (start name config) labels limit)) ∧
    (∀ (i : Nat) (limit : Duration) (r : Option ProcessorResult),
      (operations labels)[i]? = some (.shutdown limit) → s.callers[i]? = some (.done r) →
      ∃ r', r = some r' ∧
        (s.control.shutdownResult = some r' ∨ r' = .error (.timeout limit))) ∧
    (∀ (i : Nat) (r : ProcessorResult) (implied : Bool),
      (operations labels)[i]? = some .drop → s.callers[i]? = some (.leaving r implied) →
      s.control.shutdownResult = some r ∨ r = .error (.timeout config.shutdownTimeout)) ∧
    s.isShutdown = s.control.shutdownRequested ∧
    s.control.flushCompleted ≤ s.control.flushRequested ∧
    (∀ (i : Nat) (c : Caller α) (expired : Bool), s.callers[i]? = some c →
      s.step (.caller i expired) = none → (∃ r, c = .done r) ∨
        (∃ r implied, c = .joining r implied) ∧ ∀ panicked, s.worker ≠ .stopped panicked) ∧
    ∀ l n t, Run s l n t →
      s.control.flushCompleted ≤ t.control.flushCompleted ∧
      (∀ r, s.control.shutdownResult = some r → t.control.shutdownResult = some r) ∧
      ∀ panicked, s.worker = .stopped panicked →
        (∃ r, t.control.shutdownResult = some r) ∧ calls n = [] ∧
        ∀ (i : Nat) (op : Operation α) (c : Caller α), (operations l)[i]? = some op →
          op.refusal ≠ [] → t.callers[s.callers.length + i]? = some c →
          c ∈ op.refusal ∧ ∀ expired u new,
            t.step (.caller (s.callers.length + i) expired) = some (u, new) →
            ∃ v c', c.Refuses t v c' new ∧
              u = { v with callers := t.callers.set (s.callers.length + i) c' } := by
  have sound := run.shutsDown (shutsDown_start name config)
  refine ⟨?last, ?shutdowns, ?drops, sound.flags, run.numbered.answered, ?waits, ?later⟩
  case last =>
    rcases run.disciplined.last with open_ | ⟨-, before, limit, closed, others⟩
    · exact ⟨calls notes, [], (List.append_nil _).symm, open_, .inl rfl⟩
    · have last : .close limit ∈ calls notes := by simp [closed]
      exact ⟨before, [.close limit], closed, others,
        .inr ⟨limit, rfl, run.first_request_of_close last⟩⟩
  case shutdowns => exact fun i limit r asked returned => (run.ends asked returned).result
  case drops =>
    intro i r implied asked leaving
    have time : s.config.shutdownTimeout = config.shutdownTimeout := by rw [run.config]; rfl
    rcases run.ends asked leaving with away | away | closing
    · cases away
    · cases away
    · obtain ⟨_, ending, result⟩ := closing
      cases ending
      exact time ▸ result.imp_right And.right
  case waits => exact fun i c expired hc blocked => waits_of_step_eq_none hc blocked
  case later =>
    intro l n t run'
    refine ⟨run.flushCompleted_le run', fun r answer => run.shutdownResult run' answer, ?_⟩
    intro panicked stopped
    have concluded : s.worker.concluded = true := by rw [stopped]; rfl
    have late : s.isShutdown = true := sound.flags.trans (sound.requested_of_concluded concluded)
    have finished : s.worker.finished = true := by rw [stopped]; rfl
    refine ⟨?answer, (run'.calls_of_finished finished).1, ?refused⟩
    case answer =>
      obtain ⟨r, answer⟩ := Option.isSome_iff_exists.1 (run.concluded.answered.trans concluded)
      exact ⟨r, run.shutdownResult run' answer⟩
    case refused =>
      intro i op c asked refused hc
      have place := run'.mem_refusal late asked refused hc
      refine ⟨place, fun expired u new step => ?_⟩
      rcases (moves_of_step step).caller_of_getElem? hc with ⟨-, v, c', hm, rfl⟩ | ⟨other, -⟩
      · exact ⟨v, c', (hm.refuses (run'.isShutdown late) place).1, rfl⟩
      · exact absurd rfl other

/-- The exporter's shutdown ends, and so does the worker. -/
def oneEnd : List (Label Nat) :=
  oneShutdown ++ .ended (.returned (.ok ())) :: List.replicate 3 (.worker false)

/-- A record comes behind the end. -/
def lateRecord : List (Label Nat) :=
  .begins (.receive 2) :: List.replicate 3 (.caller 2 false)

theorem shutdown_is_final_of_one :
    ∃ (s t : Batch Nat) (notes new : List (Note Nat)),
      Run (start "logs" (smallest .dropNewest)) (oneRecord ++ oneEnd) notes s ∧
      s.worker = .stopped false ∧ Run s lateRecord new t ∧
      (∃ r, t.control.shutdownResult = some r) ∧ calls new = [] ∧
      ∃ c, t.callers[2]? = some c ∧ c ∈ (Operation.receive 2).refusal := by
  obtain ⟨t, notes, run, came⟩ := exists_run (start "logs" (smallest .dropNewest))
    ((oneRecord ++ oneEnd) ++ lateRecord) (fun t _ => (t.result? 2).isSome) (by decide +kernel)
  obtain ⟨s, n, new, run₁, late, rfl⟩ := run.split
  have two := run₁.test (fun s _ => s.callers.length == 2) (by decide +kernel)
  have stopped := Worker.eq_stopped
    (run₁.test (fun s _ => s.worker.hasStopped false) (by decide +kernel))
  rw [beq_iff_eq] at two
  obtain ⟨r, done⟩ := Option.isSome_iff_exists.1 came
  have done := callers_of_result? done
  obtain ⟨-, -, -, -, -, -, later⟩ := shutdown_is_final run₁
  obtain ⟨answer, quiet, refused⟩ := (later _ _ _ late).2.2 false stopped
  have place := refused 0 (.receive 2) (.done r) rfl (List.cons_ne_nil _ _)
    (by rw [two]; exact done)
  exact ⟨s, t, n, new, run₁, stopped, late, answer, quiet, .done r, done, place.1⟩

end Telemetry.Batch
