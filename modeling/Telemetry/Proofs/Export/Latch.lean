import Telemetry.Export.Blocking
import Telemetry.Export.Lines
import Telemetry.Export.Memory
import Telemetry.Proofs.Export.Nested

set_option autoImplicit false

/-! # Exporters that were shut down

Each supplied exporter keeps in its own way that it was shut down: a flag, a writer that is given
up, or a flag that is set before an asynchronous exporter is asked. What the request to close ended
with makes no difference. From then on a batch is refused and nothing changes; a retrying exporter
takes that answer as final, so it holds through any number of them. -/

namespace Telemetry

variable {α σ τ : Type}

/-! ## Latches -/

/-- Any request to close shuts the exporter, no request opens it again, and while it is shut it
refuses batches and changes nothing. -/
structure Exporter.Latches (E : Exporter α σ) (isShut : σ → Prop) : Prop where
  quiet : E.IsQuiet
  timeless : ∀ d s, E.elapse d s = s
  close : ∀ limit s, isShut (E.call (.close limit) s).state
  stays : ∀ request {s}, isShut s → isShut (E.call request s).state
  refuses : ∀ batch {s}, isShut s → E.call (.send batch) s = .answer (.error .shutdown) s

/-- The retrying exporters around the exporter pass the batch on once each, the exporter refuses it,
and nothing else happens. -/
structure Exporter.TurnsAway (E : Exporter α σ) {cs : List RetryConfig} (batch : List α)
    (t : Watched α σ cs) : Prop where
  outcome : ((E.watched cs).call (.send batch) t).outcome = .returned (.error .shutdown)
  core : ((E.watched cs).call (.send batch) t).state.core = t.core
  passed : t.PassedOn (.send batch) (.returned (.error .shutdown))
    ((E.watched cs).call (.send batch) t).state

namespace Exporter.Latches

variable {E : Exporter α σ} {isShut : σ → Prop} {cs : List RetryConfig}

theorem keeps (h : E.Latches isShut) : E.Keeps isShut where
  call := h.stays
  name := by
    intro s shut
    obtain ⟨name, told⟩ := h.quiet s
    rwa [told]
  elapse := by
    intro d s shut
    rwa [h.timeless]

/-- Behind a request to close the innermost exporter is shut. -/
theorem serve_watched (h : E.Latches isShut) (before after : List (Request α)) (limit : Duration)
    (s : Watched α σ cs) :
    isShut ((E.watched cs).serve (before ++ .close limit :: after) s).core := by
  rw [Exporter.serve_append, Exporter.serve]
  generalize (E.watched cs).serve before s = u
  have straight : E.AnswersFinally (.close limit) u.core := by
    intro batch
    cases batch
  obtain ⟨-, core, -⟩ := E.watched_call h.quiet cs straight
  have shut : isShut ((E.watched cs).call (.close limit) u).state.core := by
    rw [core]
    exact h.close limit u.core
  exact (h.keeps.watched cs).serve after shut

theorem turnsAway (h : E.Latches isShut) (batch : List α) {t : Watched α σ cs}
    (shut : isShut t.core) : E.TurnsAway batch t := by
  have refused := h.refuses batch shut
  have final : E.AnswersFinally (.send batch) t.core := by
    intro _
    exact ⟨.error .shutdown, by rw [refused, Call.answer], rfl⟩
  obtain ⟨outcome, core, passed⟩ := E.watched_call h.quiet cs final
  rw [refused] at outcome core passed
  exact ⟨outcome, core, passed⟩

end Exporter.Latches

/-! ## The supplied exporters -/

/-- The exporters that batches may end up in. -/
inductive Exporter.Supplied : {σ : Type} → Exporter α σ → Prop
  | memory : Supplied (Memory.exporter α)
  | lines {ω : Type} (encode : α → Encoded) (w : Writer ω) : Supplied (Lines.exporter encode w)
  | display {ω : Type} (debug : α → String) (w : Writer ω) : Supplied (Display.exporter debug w)
  | blocking {τ : Type} (limit : Duration) (A : AsyncExporter α τ) :
      Supplied (Blocking.exporter limit A)

theorem Exporter.isQuiet_plain (name : String) (call : Request α → σ → Call σ) :
    (Exporter.plain name call).IsQuiet :=
  fun _ => ⟨name, rfl⟩

theorem Memory.latches : (Memory.exporter α).Latches fun m => m.isClosed = true where
  quiet := Exporter.isQuiet_plain _ _
  timeless _ _ := rfl
  close _ _ := rfl
  stays := by
    intro request m shut
    cases request with
    | send batch => simp [exporter, Exporter.plain, call, shut, Call.answer]
    | flush limit => exact shut
    | close limit => rfl
  refuses := by
    intro batch m shut
    simp [exporter, Exporter.plain, call, shut]

theorem Lines.latches {ω : Type} (encode : α → Encoded) (w : Writer ω) :
    (Lines.exporter encode w).Latches fun l => l.isOpen = false where
  quiet := Exporter.isQuiet_plain _ _
  timeless _ _ := rfl
  close := by
    rintro limit ⟨s, isOpen⟩
    cases isOpen <;> rfl
  stays := by
    rintro request ⟨s, isOpen⟩ rfl
    cases request <;> rfl
  refuses := by
    rintro batch ⟨s, isOpen⟩ rfl
    rfl

theorem Display.latches {ω : Type} (debug : α → String) (w : Writer ω) :
    (Display.exporter debug w).Latches fun d => d.isClosed = true where
  quiet := Exporter.isQuiet_plain _ _
  timeless _ _ := rfl
  close _ _ := rfl
  stays := by
    rintro request ⟨s, isVerbose, isClosed⟩ rfl
    cases request <;> rfl
  refuses := by
    rintro batch ⟨s, isVerbose, isClosed⟩ rfl
    rfl

theorem Blocking.latches (limit : Duration) (A : AsyncExporter α τ) :
    (Blocking.exporter limit A).Latches fun b => b.isClosed = true where
  quiet b := ⟨A.name b.inner, rfl⟩
  timeless _ _ := rfl
  close := by
    rintro limit ⟨s, isClosed⟩
    cases isClosed <;> rfl
  stays := by
    rintro request ⟨s, isClosed⟩ rfl
    cases request <;> rfl
  refuses := by
    rintro batch ⟨s, isClosed⟩ rfl
    rfl

theorem Exporter.Supplied.exists_latches {E : Exporter α σ} (h : E.Supplied) :
    ∃ isShut, E.Latches isShut := by
  cases h with
  | memory => exact ⟨_, Memory.latches⟩
  | lines encode w => exact ⟨_, Lines.latches encode w⟩
  | display debug w => exact ⟨_, Display.latches debug w⟩
  | blocking limit A => exact ⟨_, Blocking.latches limit A⟩

/-! ## What an asynchronous exporter is asked to start -/

/-- Work that an asynchronous exporter is asked to start. -/
inductive AsyncExporter.Start (α : Type) where
  | send (batch : List α)
  | close

/-- The state of an asynchronous exporter, with what it was asked to start. -/
structure AsyncObserved (α σ : Type) where
  state : σ
  starts : List (AsyncExporter.Start α)

/-- Work of which only a part of the state is looked at. -/
def Task.map (f : σ → τ) (t : Task σ) : Task τ :=
  ⟨f t.started, t.ending.map fun e => (e.1, e.2.map f)⟩

/-- Puts on record what an asynchronous exporter is asked to start. -/
def AsyncExporter.observed (A : AsyncExporter α σ) : AsyncExporter α (AsyncObserved α σ) where
  send := fun batch s =>
    (A.send batch s.state).map fun state => ⟨state, s.starts ++ [.send batch]⟩
  close := fun s => (A.close s.state).map fun state => ⟨state, s.starts ++ [.close]⟩
  name := fun s => A.name s.state

theorem Task.within_map (f : σ → τ) (t : Task σ) (limit : Duration) :
    (t.map f).within limit = (t.within limit).map f := by
  unfold Task.within
  rcases t with ⟨started, _ | ⟨wait, call⟩⟩
  · rfl
  · simp only [Task.map, Option.map_some]
    split <;> rfl

namespace Blocking

/-- A blocking exporter of whose inner state only a part is looked at. -/
def map (f : σ → τ) (b : Blocking σ) : Blocking τ :=
  ⟨f b.inner, b.isClosed⟩

theorem await_map (f : σ → τ) (t : Task σ) (limit : Duration) (isClosed : Bool) :
    await (t.map f) limit isClosed = (await t limit isClosed).map (map f) := by
  simp only [await, Task.within_map]
  rfl

theorem starts_await (starts : List (AsyncExporter.Start α)) (t : Task τ) (limit : Duration)
    (isClosed : Bool) :
    (await (t.map fun state => (⟨state, starts⟩ : AsyncObserved α τ)) limit
      isClosed).state.inner.starts = starts := by
  rw [await_map]
  rfl

/-- The record changes nothing. -/
theorem observed_shows (limit : Duration) (A : AsyncExporter α τ) :
    (exporter limit A.observed).Shows (map AsyncObserved.state) (exporter limit A) where
  call := by
    rintro request ⟨s, isClosed⟩
    cases request with
    | send batch =>
        cases isClosed with
        | true => rfl
        | false => exact congrArg (Call.map _) (await_map _ _ limit false)
    | flush limit => rfl
    | close limit =>
        cases isClosed with
        | true => rfl
        | false => exact congrArg (Call.map _) (await_map _ _ limit true)
  name _ := rfl
  elapse _ _ := rfl

/-- Behind what was started before come batches, and once the exporter was closed possibly one
request to close behind them, which is the last. -/
def ClosesLast (old : List (AsyncExporter.Start α)) (b : Blocking (AsyncObserved α τ)) : Prop :=
  ∃ batches : List (List α), b.inner.starts = old ++ batches.map .send ∨
    b.isClosed = true ∧ b.inner.starts = old ++ batches.map .send ++ [.close]

theorem keeps_closesLast (limit : Duration) (A : AsyncExporter α τ)
    (old : List (AsyncExporter.Start α)) : (exporter limit A.observed).Keeps (ClosesLast old) where
  call := by
    rintro request ⟨s, isClosed⟩ kept
    cases isClosed with
    | true => cases request <;> exact kept
    | false =>
        obtain ⟨batches, begun | ⟨⟨⟩, -⟩⟩ := kept
        have begun : s.starts = old ++ batches.map .send := begun
        cases request with
        | send batch =>
            refine ⟨batches ++ [batch], .inl ((starts_await ..).trans ?_)⟩
            simp [begun]
        | flush limit => exact ⟨batches, .inl begun⟩
        | close time =>
            refine ⟨batches, .inr ⟨rfl, (starts_await ..).trans ?_⟩⟩
            simp [begun]
  name := fun kept => kept
  elapse := fun _ _ kept => kept

end Blocking

/-! ## What is kept in memory -/

theorem Memory.collects (records : List α) (sizes : List Nat) :
    (Memory.exporter α).Collects
      (fun taken m => m.isClosed = false ∧ m.records = records ++ taken.flatten ∧
        m.batchSizes = sizes ++ taken.map List.length)
      (fun taken m => m.isClosed = true ∧ m.records = records ++ taken.flatten ∧
        m.batchSizes = sizes ++ taken.map List.length) where
  send := by
    rintro taken m batch ⟨isOpen, held, counted⟩
    simp [exporter, Exporter.plain, call, isOpen, Call.answer, held, counted]
  flush := fun _ h => h
  close := fun _ h => ⟨rfl, h.2⟩
  shut := by
    rintro taken m request ⟨closed, held, counted⟩
    cases request with
    | send batch => simp [exporter, Exporter.plain, call, closed, Call.answer, held, counted]
    | flush limit => exact ⟨closed, held, counted⟩
    | close limit => exact ⟨rfl, held, counted⟩

theorem Memory.answersFinally (request : Request α) (m : Memory α) :
    (Memory.exporter α).AnswersFinally request m := by
  rintro batch
  cases request with
  | send batch =>
      by_cases closed : m.isClosed = true
      · exact ⟨_, by simp [exporter, Exporter.plain, call, closed, Call.answer]; rfl, rfl⟩
      · exact ⟨_, by simp [exporter, Exporter.plain, call, closed, Call.answer]; rfl, rfl⟩
  | flush limit => cases batch
  | close limit => cases batch

/-! ## All of them -/

/-- **An exporter that was shut down stays so.** Take a supplied exporter and retrying exporters
around it, any number of them with any settings, each one's inner exporter under observation, which
changes nothing. Behind the first request to close, however that ended, and whatever came before and
comes afterwards, every batch is refused because the exporter was shut down: each retrying exporter
has passed it on exactly once and counted nothing, and in the state of the supplied exporter nothing
has changed, neither the records in memory nor the writer nor the asynchronous exporter. Whatever
the requests are, a blocking exporter starts to close its asynchronous exporter at most once and
starts nothing behind that. An exporter in memory has the records of the batches up to the first
request to close in their order, and their lengths. -/
theorem shutdown_latches (cs : List RetryConfig) :
    (∀ {σ : Type} {E : Exporter α σ}, E.Supplied →
      (E.watched cs).Shows (Watched.bare id) (E.nested cs) ∧
      ∀ before limit after batch (s : Watched α σ cs),
        E.TurnsAway batch ((E.watched cs).serve (before ++ .close limit :: after) s)) ∧
    (∀ {τ : Type} (limit : Duration) (A : AsyncExporter α τ),
      ((Blocking.exporter limit A.observed).watched cs).Shows
        (Watched.bare (Blocking.map AsyncObserved.state))
        ((Blocking.exporter limit A).nested cs) ∧
      ∀ requests (s : Watched α (Blocking (AsyncObserved α τ)) cs),
        ∃ (batches : List (List α)) (closed : List (AsyncExporter.Start α)),
          (closed = [] ∨ closed = [.close]) ∧
          (((Blocking.exporter limit A.observed).watched cs).serve requests s).core.inner.starts
            = s.core.inner.starts ++ batches.map .send ++ closed) ∧
    ∀ requests (s : Watched α (Memory α) cs), s.core.isClosed = false →
      ∃ m, m = (((Memory.exporter α).watched cs).serve requests s).core ∧
        m.records = s.core.records ++ (Request.openBatches requests).flatten ∧
        m.batchSizes = s.core.batchSizes ++ (Request.openBatches requests).map List.length := by
  refine ⟨?_, ?_, ?_⟩
  · intro σ E supplied
    obtain ⟨isShut, latches⟩ := supplied.exists_latches
    refine ⟨E.shows_self.watched cs, fun before limit after batch s => ?_⟩
    exact latches.turnsAway batch (latches.serve_watched before after limit s)
  · intro τ limit A
    refine ⟨(Blocking.observed_shows limit A).watched cs, fun requests s => ?_⟩
    have keeps := (Blocking.keeps_closesLast limit A s.core.inner.starts).watched cs
    have start : Blocking.ClosesLast s.core.inner.starts s.core := ⟨[], .inl (by simp)⟩
    obtain ⟨batches, begun | ⟨-, begun⟩⟩ := keeps.serve requests start
    · exact ⟨batches, [], .inl rfl, by simpa using begun⟩
    · exact ⟨batches, [.close], .inr rfl, begun⟩
  · intro requests s isOpen
    have collects := (Memory.collects s.core.records s.core.batchSizes).watched
      (Exporter.isQuiet_plain _ _) Memory.answersFinally cs
    have start : s.core.isClosed = false ∧
        s.core.records = s.core.records ++ ([] : List (List α)).flatten ∧
        s.core.batchSizes = s.core.batchSizes ++ ([] : List (List α)).map List.length :=
      ⟨isOpen, by simp, by simp⟩
    rcases collects.serve requests start with ⟨-, held, counted⟩ | ⟨-, held, counted⟩
    · exact ⟨_, rfl, held, counted⟩
    · exact ⟨_, rfl, held, counted⟩

/-- Two retrying exporters around an asynchronous one that never finishes closing, and around one in
memory. -/
theorem shutdown_latches_of_timeout :
    ∃ cs : List RetryConfig, cs.length = 2 ∧
    (∃ E, E = Blocking.exporter Blocking.defaultLimit (AsyncScript.exporter Nat) ∧
      ∃ s : Watched Nat (Blocking (AsyncScript Nat)) cs,
        ((E.watched cs).call (.close .zero) s).outcome = .returned (.error .timeout) ∧
        E.TurnsAway [2] ((E.watched cs).serve [.send [1], .close .zero] s)) ∧
    ∃ m, m = (((Memory.exporter Nat).watched cs).serve
        [.send [1, 2], .flush .zero, .send [], .close .zero, .send [3]] (.around cs .empty)).core ∧
      m.records = [1, 2] ∧ m.batchSizes = [2, 0] := by
  let cs : List RetryConfig := [.default, .doubling 2 (.ofMillis 1)]
  refine ⟨cs, rfl, ⟨_, rfl, .around cs (.around ⟨[], [none], []⟩), rfl, ?_⟩, ?_⟩
  · obtain ⟨refused, -, -⟩ := shutdown_latches (α := Nat) cs
    exact (refused (.blocking _ _)).2 [.send [1]] .zero [] [2] _
  · obtain ⟨-, -, memory⟩ := shutdown_latches (α := Nat) cs
    exact memory [.send [1, 2], .flush .zero, .send [], .close .zero, .send [3]]
      (.around cs .empty) rfl

end Telemetry
