import Telemetry.Proofs.Export.Retrying
import Telemetry.Proofs.Export.Serving

set_option autoImplicit false

/-! # Retrying exporters around each other

Retrying exporters may be put around each other to any depth. Each of them is watched here from the
inside: what the exporter in it goes through is put on record. A request whose answer ends the
attempts reaches the innermost exporter once, and each exporter on the way once. -/

namespace Telemetry

variable {α σ τ : Type}

/-! ## Towers of exporters -/

/-- The states of retrying exporters around each other, the outermost one first. -/
def Nested (σ : Type) : List RetryConfig → Type
  | [] => σ
  | _ :: cs => Retrying (Nested σ cs)

/-- Retrying exporters around each other, the outermost one first. -/
def Exporter.nested (E : Exporter α σ) : (cs : List RetryConfig) → Exporter α (Nested σ cs)
  | [] => E
  | c :: cs => Retrying.exporter c (E.nested cs)

/-- The states of retrying exporters around each other with a record of what each one's inner
exporter goes through. -/
def Watched (α σ : Type) : List RetryConfig → Type
  | [] => σ
  | _ :: cs => Retrying (Observed α (Watched α σ cs))

/-- Retrying exporters around each other, each one's inner exporter under observation. -/
def Exporter.watched (E : Exporter α σ) : (cs : List RetryConfig) → Exporter α (Watched α σ cs)
  | [] => E
  | c :: cs => Retrying.exporter c (E.watched cs).observed

namespace Watched

/-- The state of the innermost exporter. -/
def core : {cs : List RetryConfig} → Watched α σ cs → σ
  | [], s => s
  | _ :: _, s => core (Observed.state (Retrying.inner s))

/-- The records, the outermost one first. -/
def logs : {cs : List RetryConfig} → Watched α σ cs → List (List (Incident α))
  | [], _ => []
  | _ :: _, s => Observed.log (Retrying.inner s) :: logs (Observed.state (Retrying.inner s))

/-- What the retrying exporters have counted, the outermost one first. -/
def counts : {cs : List RetryConfig} → Watched α σ cs → List (UInt64 × UInt64)
  | [], _ => []
  | _ :: _, s =>
      (Retrying.totalRetries s, Retrying.recovered s) :: counts (Observed.state (Retrying.inner s))

/-- Around a state, with nothing recorded or counted yet. -/
def around : (cs : List RetryConfig) → σ → Watched α σ cs
  | [], s => s
  | _ :: cs, s => Retrying.around ⟨around cs s, []⟩

/-- The state without the records, and of the innermost exporter only a part. -/
def bare (f : σ → τ) : {cs : List RetryConfig} → Watched α σ cs → Nested τ cs
  | [], s => f s
  | _ :: _, s => Retrying.map (fun inner => bare f (Observed.state inner)) s

end Watched

/-- The records change nothing, and what the innermost exporter shows, all of them show. -/
theorem Exporter.Shows.watched {E : Exporter α σ} {F : Exporter α τ} {f : σ → τ}
    (h : E.Shows f F) (cs : List RetryConfig) :
    (E.watched cs).Shows (Watched.bare f) (F.nested cs) := by
  induction cs with
  | nil => exact h
  | cons c cs ih => exact Retrying.shows_map ((E.watched cs).observed_shows.trans ih) c

/-! ## What all requests keep -/

/-- A property of states that is kept whatever the exporter is asked for. -/
structure Exporter.Keeps (E : Exporter α σ) (P : σ → Prop) : Prop where
  call : ∀ request {s}, P s → P (E.call request s).state
  name : ∀ {s}, P s → P (E.name s).2
  elapse : ∀ d {s}, P s → P (E.elapse d s)

theorem Exporter.Keeps.serve {E : Exporter α σ} {P : σ → Prop} (h : E.Keeps P)
    (requests : List (Request α)) {s : σ} (kept : P s) : P (E.serve requests s) :=
  Exporter.serve_keeps (fun request _ => h.call request) requests kept

theorem Exporter.Keeps.observed {E : Exporter α σ} {P : σ → Prop} (h : E.Keeps P) :
    E.observed.Keeps fun s => P s.state :=
  ⟨fun request _ kept => h.call request kept, fun kept => h.name kept,
    fun d _ kept => h.elapse d kept⟩

namespace Retrying

variable {E : Exporter α σ} {P : σ → Prop}

theorem keeps_conclude (h : E.Keeps P) (n : Nat) (r : ExportResult) {s : Retrying σ}
    (kept : P s.inner) : P (conclude E n r s).2.inner := by
  cases r with
  | ok =>
      simp only [conclude]
      split <;> exact kept
  | error e =>
      have named := h.name kept
      simp only [conclude]
      generalize E.name s.inner = told at named ⊢
      rcases told with ⟨_ | _, t⟩ <;> exact named

theorem keeps_attempt (h : E.Keeps P) (c : RetryConfig) (batch : List α) {s : Retrying σ} (n : Nat)
    (kept : P s.inner) : P (attempt c E n batch s).state.inner := by
  have ready : P (prepare c E n s).inner := by
    unfold prepare
    split
    · exact kept
    · exact h.elapse _ kept
  have called := h.call (.send batch) ready
  unfold attempt
  simp only
  split
  · exact called
  · rename_i r _
    have concluded := keeps_conclude h n r
      (s := { prepare c E n s with inner := (E.call (.send batch) (prepare c E n s).inner).state })
      called
    split
    · rename_i same
      rwa [same] at concluded
    · rename_i same
      rwa [same] at concluded

theorem keeps_attempts (h : E.Keeps P) (c : RetryConfig) (batch : List α) (left n : Nat)
    {s : Retrying σ} (kept : P s.inner) : P (attempts c E batch left n s).state.inner := by
  induction left generalizing n s with
  | zero =>
      have tried := keeps_attempt h c batch n kept
      unfold attempts
      simp only
      split
      · exact tried
      · split <;> exact tried
  | succ left ih =>
      have tried := keeps_attempt h c batch n kept
      unfold attempts
      simp only
      split
      · exact tried
      · split
        · exact tried
        · exact ih (n + 1) tried

/-- A retrying exporter does nothing to the inner exporter but ask it. -/
theorem keeps (h : E.Keeps P) (c : RetryConfig) : (exporter c E).Keeps fun s => P s.inner where
  call := by
    intro request s kept
    cases request with
    | send batch => exact keeps_attempts h c batch c.maxRetries.toNat 0 kept
    | flush limit => exact h.call (.flush limit) kept
    | close limit => exact h.call (.close limit) kept
  name := fun kept => h.name kept
  elapse := fun d _ kept => h.elapse d kept

end Retrying

theorem Exporter.Keeps.watched {E : Exporter α σ} {P : σ → Prop} (h : E.Keeps P)
    (cs : List RetryConfig) : (E.watched cs).Keeps fun s => P s.core := by
  induction cs with
  | nil => exact h
  | cons c cs ih => exact Retrying.keeps ih.observed c

/-! ## Requests that are passed on once -/

/-- Asking for the name neither panics nor changes anything. -/
def Exporter.IsQuiet (E : Exporter α σ) : Prop :=
  ∀ s, ∃ name, E.name s = (.ok name, s)

theorem Exporter.IsQuiet.observed {E : Exporter α σ} (h : E.IsQuiet) : E.observed.IsQuiet := by
  intro s
  obtain ⟨name, told⟩ := h s.state
  exact ⟨name, by simp [Exporter.observed, told]⟩

theorem Exporter.IsQuiet.watched {E : Exporter α σ} (h : E.IsQuiet) (cs : List RetryConfig) :
    (E.watched cs).IsQuiet := by
  induction cs with
  | nil => exact h
  | cons c cs ih =>
      intro s
      obtain ⟨name, told⟩ := ih.observed (Retrying.inner s)
      refine ⟨name, ?_⟩
      simp only [Exporter.watched, Retrying.exporter, told]
      rfl

/-- Is the request a batch, then the answer to it ends the attempts. -/
def Exporter.AnswersFinally (E : Exporter α σ) (request : Request α) (s : σ) : Prop :=
  request.kind = .send → ∃ r, (E.call request s).outcome = .returned r ∧ Retrying.isFinal r = true

/-- A batch whose first attempt ends the attempts. -/
theorem Retrying.call_of_first {E : Exporter α σ} (quiet : E.IsQuiet) (c : RetryConfig)
    {batch : List α} {s : Retrying σ} {r : ExportResult}
    (answered : (E.call (.send batch) s.inner).outcome = .returned r)
    (final : isFinal r = true) :
    (call c E (.send batch) s).outcome = .returned r ∧
      (call c E (.send batch) s).state =
        { s with inner := (E.call (.send batch) s.inner).state } := by
  have first : (attempt c E 0 batch s).outcome = .returned r ∧ (attempt c E 0 batch s).state =
      { s with inner := (E.call (.send batch) s.inner).state } := by
    simp only [attempt, prepare, ↓reduceIte, answered]
    cases r with
    | ok => simp [conclude]
    | error e =>
        obtain ⟨name, told⟩ := quiet (E.call (.send batch) s.inner).state
        simp [conclude, told]
  rw [call, attempts_of_final first.1 final]
  exact first

/-- From `s` to `t` each retrying exporter has passed the request on once, and counted nothing. -/
structure Watched.PassedOn {cs : List RetryConfig} (request : Request α) (o : Outcome)
    (s t : Watched α σ cs) : Prop where
  logs : t.logs = s.logs.map (· ++ [.asked request o])
  counts : t.counts = s.counts

/-- A retrying exporter passes on a request whose answer ends the attempts. -/
theorem Retrying.call_of_final_answer {E : Exporter α σ} (quiet : E.IsQuiet) (c : RetryConfig)
    {request : Request α} {s : Retrying σ} (final : E.AnswersFinally request s.inner) :
    (call c E request s).outcome = (E.call request s.inner).outcome ∧
      (call c E request s).state = { s with inner := (E.call request s.inner).state } := by
  cases request with
  | send batch =>
      obtain ⟨r, answered, ends⟩ := final rfl
      rw [answered]
      exact call_of_first quiet c answered ends
  | flush limit => exact ⟨rfl, rfl⟩
  | close limit => exact ⟨rfl, rfl⟩

/-- A request whose answer ends the attempts goes straight through to the innermost exporter, and
its answer comes straight back. -/
theorem Exporter.watched_call {E : Exporter α σ} (quiet : E.IsQuiet) {request : Request α}
    (cs : List RetryConfig) {s : Watched α σ cs} (final : E.AnswersFinally request s.core) :
    ((E.watched cs).call request s).outcome = (E.call request s.core).outcome ∧
      ((E.watched cs).call request s).state.core = (E.call request s.core).state ∧
      s.PassedOn request (E.call request s.core).outcome ((E.watched cs).call request s).state := by
  induction cs with
  | nil => exact ⟨rfl, rfl, rfl, rfl⟩
  | cons c cs ih =>
      obtain ⟨outcome, core, logs, counts⟩ := ih (s := Observed.state (Retrying.inner s)) final
      have answers : (E.watched cs).observed.AnswersFinally request (Retrying.inner s) := by
        intro batch
        obtain ⟨r, answered, ends⟩ := final batch
        exact ⟨r, outcome.trans answered, ends⟩
      obtain ⟨passed, state⟩ :=
        Retrying.call_of_final_answer (quiet.watched cs).observed c answers
      refine ⟨passed.trans outcome, ?_, ?_, ?_⟩
      · exact (congrArg Watched.core state).trans core
      · have entry : Observed.log ((E.watched cs).observed.call request (Retrying.inner s)).state =
            Observed.log (Retrying.inner s)
              ++ [.asked request (E.call request s.core).outcome] := by
          rw [← show _ = (E.call request s.core).outcome from outcome]
          rfl
        exact (congrArg Watched.logs state).trans (List.cons_eq_cons.2 ⟨entry, logs⟩)
      · refine (congrArg Watched.counts state).trans ?_
        exact List.cons_eq_cons.2 ⟨rfl, counts⟩

/-- Around an exporter whose every answer ends the attempts, the same batches are taken over. -/
theorem Exporter.Collects.watched {E : Exporter α σ} {isOpen isShut : List (List α) → σ → Prop}
    (h : E.Collects isOpen isShut) (quiet : E.IsQuiet)
    (final : ∀ request s, E.AnswersFinally request s) (cs : List RetryConfig) :
    (E.watched cs).Collects (fun taken s => isOpen taken s.core)
      (fun taken s => isShut taken s.core) where
  send := by
    intro taken s batch start
    rw [(E.watched_call quiet cs (final (.send batch) s.core)).2.1]
    exact h.send batch start
  flush := by
    intro taken s limit start
    rw [(E.watched_call quiet cs (final (.flush limit) s.core)).2.1]
    exact h.flush limit start
  close := by
    intro taken s limit start
    rw [(E.watched_call quiet cs (final (.close limit) s.core)).2.1]
    exact h.close limit start
  shut := by
    intro taken s request closed
    rw [(E.watched_call quiet cs (final request s.core)).2.1]
    exact h.shut request closed

end Telemetry
