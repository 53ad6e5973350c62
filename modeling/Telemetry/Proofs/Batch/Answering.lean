import Telemetry.Proofs.Batch.Books

set_option autoImplicit false

/-! # What one caller gets back from a batch processor

Every call of a run with one caller returns what the ledger says. When a flush or a shutdown has
returned, the exporter and the counters show the ledger as well. -/

namespace Telemetry.Batch

variable {α : Type} {name : String} {config : BatchConfig} {labels : List (Label α)}
  {notes : List (Note α)} {s : Batch α}

/-! ## The exporter and the counters -/

theorem Solo.returned (h : Solo name config labels notes s) {r : Option ProcessorResult}
    (back : s.latest = .done r) : ∀ c ∈ s.callers, ∃ r, c = .done r := by
  intro c hc
  obtain ⟨i, hi⟩ := List.mem_iff_getElem?.1 hc
  by_contra running
  have moves : ∀ r, c ≠ .done r := fun r same => running ⟨r, same⟩
  obtain ⟨last, -⟩ := h.run.latest_moves h.one rfl hi moves
  exact moves r (last.symm.trans back)

/-- The worker is not at a place behind the final drain that it leaves again. -/
theorem Worker.rests {w : Worker α} (healthy : w.Healthy) (hand : w.hand = [])
    (counted : w.unexported = 0) (still : w.sealed = true → w.concluded = true) :
    w.held = 0 ∧ w.owed = 0 := by
  cases w with
  | collecting p batch =>
      obtain rfl : batch = [] := hand
      exact ⟨rfl, rfl⟩
  | sending p batch =>
      obtain rfl := List.eq_nil_of_length_eq_zero counted
      exact ⟨rfl, rfl⟩
  | countingExported p size =>
      obtain rfl : size = 0 := counted
      exact ⟨rfl, rfl⟩
  | sweeping => exact absurd (still rfl) nofun
  | countingFailure | countingFailed | unwindSweeping => exact healthy.elim
  | _ => exact ⟨rfl, rfl⟩

theorem Worker.shuts_eq {w : Worker α} (healthy : w.Healthy) :
    (w.concluded = true → w.shuts = true) ∧ (w.shuts = true → w.drained = true) := by
  cases w with
  | stopped panicked =>
      cases panicked with
      | false => exact ⟨fun _ => rfl, fun _ => rfl⟩
      | true => exact healthy.elim
  | unwindSealing | unwindSweeping | unwindAnnouncing => exact healthy.elim
  | announcingEnd | reporting => exact ⟨fun _ => rfl, fun _ => rfl⟩
  | closing | namingClose | concluding => exact ⟨nofun, fun _ => rfl⟩
  | _ => exact ⟨nofun, nofun⟩

/-- The worker flushes the exporter only for a request that somebody waits for. -/
theorem Orders.not_flushes {c : Caller α} (h : Orders s c) (numbered : Numbered s)
    (idle : c.number? = none) : s.worker.flushes = false := by
  rw [Bool.eq_false_iff]
  intro flushes
  obtain ⟨number, task⟩ : ∃ number, s.worker.task? = some (.flush number) := by
    cases hw : s.worker with
    | flushing number | publishing number => exact ⟨number, rfl⟩
    | _ => rw [hw] at flushes; cases flushes
  have own := h.task number task
  have served := numbered.served number task
  have answered := h.answered idle
  omega

/-- Where nothing is under way, what is not exported was refused. -/
theorem Solo.counted (h : Solo name config labels notes s) {r : Option ProcessorResult}
    (back : s.latest = .done r) (queue : s.queue.items = []) (held : s.worker.held = 0)
    (owed : s.worker.owed = 0)
    (exported : s.counters.exported =
      (Ledger.of (operations labels)).records.length.toUInt64) :
    s.counters.received = (Ledger.of (operations labels)).records.length.toUInt64 ∧
      s.counters.droppedAfterShutdown =
        (Ledger.of (operations labels)).refused.toUInt64 := by
  have balanced := h.run.balanced
  have settled (c : Caller α) (hc : c ∈ s.callers) : c.owed = 0 ∧ c.held = 0 := by
    obtain ⟨r, rfl⟩ := h.returned back c hc
    exact ⟨rfl, rfl⟩
  have calls := balanced.calls
  have records := balanced.records
  rw [sum_eq_zero fun c hc => (settled c hc).1, owed] at calls
  rw [sum_eq_zero fun c hc => (settled c hc).2, held] at records
  have none : s.counters.droppedOverflow = 0 :=
    h.room labels [] notes s (List.append_nil _).symm h.run
  have empty : s.queue.length = 0 := Queue.length_of_nil queue
  have all : receiveCount labels = _ :=
    (Ledger.length_records_add_refused (operations labels)).symm
  rw [all, toUInt64_add] at calls
  simp only [answered, placed, lost, none, ite_self, empty, exported,
    h.sound.healthy.recordsFailed] at calls records
  have received : s.counters.received =
      (Ledger.of (operations labels)).records.length.toUInt64 := by
    have zero : (0 : Nat).toUInt64 = 0 := rfl
    grind
  refine ⟨received, ?_⟩
  rw [received] at calls
  grind

/-- When a flush or a shutdown has returned, the exporter and the counters show the ledger. -/
theorem Solo.shows (h : Solo name config labels notes s) {r : ProcessorResult}
    (back : s.latest = .done (some r)) :
    (Ledger.of (operations labels)).Shows (calls notes) s.counters := by
  have books := h.books
  rw [back] at books
  obtain ⟨clears, closed, flushes, flushed, records⟩ := books
  have sound := h.sound
  obtain ⟨queue, hand, counted⟩ := clears.settled rfl
  have healthy := sound.healthy.worker
  have closed : (Ledger.of (operations labels)).closed = s.control.shutdownRequested :=
    closed.trans (Bool.or_false _)
  obtain ⟨shuts, drains⟩ := Worker.shuts_eq healthy
  have records : delivered (calls notes) = (Ledger.of (operations labels)).records := by
    simpa [hand, queue, Caller.brings] using records
  have exported := h.run.exported h.succeeds
  rw [counted, records] at exported
  have exported : s.counters.exported =
      (Ledger.of (operations labels)).records.length.toUInt64 :=
    (UInt64.add_zero _).symm.trans exported
  have requested (late : s.control.shutdownRequested = true) : s.worker.concluded = true :=
    clears.orders.concluded late rfl
  obtain ⟨received, refused⟩ : s.counters.received =
      (Ledger.of (operations labels)).records.length.toUInt64 ∧
      s.counters.droppedAfterShutdown = (Ledger.of (operations labels)).refused.toUInt64 := by
    -- Whoever has been told of a shutdown has waited for all of it.
    have still (sealed : s.worker.sealed = true) : s.worker.concluded = true :=
      requested (sound.shutsDown.requested (sound.shutsDown.sealed sealed))
    obtain ⟨held, owed⟩ := Worker.rests healthy hand counted still
    exact h.counted back queue held owed exported
  constructor
  case records => exact records
  case flushes =>
    have answered := clears.orders.answered rfl
    have asked : (Ledger.of (operations labels)).flushes = s.control.flushRequested := flushes
    rw [flushed, clears.orders.not_flushes sound.numbered rfl, asked, answered]
    rfl
  case closes =>
    rw [h.run.shuts h.succeeds, closed]
    cases late : s.control.shutdownRequested with
    | true => rw [shuts (requested late)]
    | false =>
        congr 1
        refine Bool.eq_false_iff.2 fun now => ?_
        exact absurd (late.symm.trans (sound.shutsDown.drained (drains now)))
          Bool.false_ne_true
  case received => exact received
  case exported => exact exported
  case recordsFailed => exact sound.healthy.recordsFailed
  case refused => exact refused

/-! ## The results -/

/-- A call that flushes. -/
def Caller.flushes : Caller α → Bool
  | .flushing _ | .requestingFlush _ | .awaitingFlush _ _ _ => true
  | _ => false

/-- The result that a call that shuts down is about to return. -/
def Caller.outcome? : Caller α → Option ProcessorResult
  | .claiming r _ | .joining r _ | .leaving r _ => some r
  | _ => none

/-- Whether a place is one of those that a call goes through before it returns. -/
def Operation.covers : Operation α → Caller α → Bool
  | .receive _, c => c.receives
  | .flush _, c => c.flushes
  | .shutdown _, c | .drop, c => c.closes

/-- Whether the latest call is under way or has returned what the ledger says. -/
structure Meets (ops : List (Operation α)) (c : Caller α) : Prop where
  outcome : ∀ r, c.outcome? = some r → r = .ok ()
  answer : ∀ before op, ops = before ++ [op] →
    op.covers c = true ∨ c = .done ((Ledger.of before).answer op)

theorem Operation.covers_notify (op : Operation α) (c : Caller α) :
    op.covers c.notify = op.covers c := by
  cases op <;> cases c <;> rfl

theorem Operation.covers_place (op : Operation α) : op.covers op.place = true := by
  cases op <;> rfl

theorem Meets.begins (ops : List (Operation α)) (op : Operation α) :
    Meets (ops ++ [op]) op.place where
  outcome := by cases op <;> exact nofun
  answer := by
    intro before latest cut
    obtain ⟨-, last⟩ := List.append_inj' cut rfl
    obtain rfl := List.head_eq_of_cons_eq last
    exact .inl op.covers_place

theorem Meets.notify {ops : List (Operation α)} {c : Caller α} (h : Meets ops c) :
    Meets ops c.notify where
  outcome := by cases c <;> exact h.outcome
  answer := by
    intro before op cut
    rw [op.covers_notify]
    exact (h.answer before op cut).imp_right fun back => by rw [back]; rfl

/-- The answer to a shutdown is that nothing has failed. -/
theorem Caller.Moves.outcome {s t : Batch α} {c c' : Caller α} {notes : List (Note α)}
    (h : c.Moves s t c' notes) (healthy : Healthy s) (calm : c'.spoils = false)
    (before : ∀ r, c.outcome? = some r → r = .ok ()) {r : ProcessorResult}
    (now : c'.outcome? = some r) : r = .ok () := by
  cases h with
  | closesAgain _ look | closes _ look | looksAtShutdown look =>
      cases look with
      | answered answer => cases now; exact healthy.shutdownResult _ answer
      | expired => cases calm
      | waits => cases now
  | claims | claimsAgain | joins => exact before r now
  | requestsFlush _ look | looksAtFlush look => cases look <;> cases now
  | _ => cases now

/-- A call goes on or returns, a flush with what the state says of the shutdown. -/
theorem Caller.Moves.covered {s t : Batch α} {c c' : Caller α} {notes : List (Note α)}
    (h : c.Moves s t c' notes) (sound : Sound s) (orders : Orders s c) (calm : c'.spoils = false)
    (plain : c.implied = false) (op : Operation α) (covers : op.covers c = true) :
    op.covers c' = true ∨
      (match op with
      | .receive _ => c' = .done none
      | .flush _ => c' = .done (some
          (if s.control.shutdownRequested then .error .alreadyShutdown else .ok ()))
      | .shutdown _ | .drop => ∃ r, c.outcome? = some r ∧ c' = .done (some r)) := by
  cases op with
  | receive a =>
      cases h with
      | discardsLate | findsNoBatch | signalsAgain | notifies => exact .inr rfl
      | flushesLate | flushes | flushRefused | requestsFlush | looksAtFlush | dropsAgain | drops |
        closesAgain | closes | looksAtShutdown | claims | claimsAgain | joins | leavesDrop |
        leaves => cases covers
      | _ => exact .inl rfl
  | flush limit =>
      have flags := sound.shutsDown.flags
      cases h with
      | flushesLate late =>
          refine .inr ?_
          rw [← flags, late]
          rfl
      | flushes => exact .inl rfl
      | flushRefused late => exact absurd ((orders.entered rfl).symm.trans late) nofun
      | requestsFlush _ look =>
          cases look with
          | answered now => exact absurd sound.numbered.answered (Nat.not_le.2 now)
          | expired => cases calm
          | waits => exact .inl rfl
      | looksAtFlush look =>
          cases look with
          | answered =>
              refine .inr ?_
              rw [orders.entered rfl, sound.healthy.flushResult]
              rfl
          | expired => cases calm
          | waits => exact .inl rfl
      | _ => cases covers
  | shutdown limit | drop =>
      cases h with
      | closesAgain _ look | closes _ look | looksAtShutdown look =>
          cases look with
          | expired => cases calm
          | _ => exact .inl rfl
      | claims | claimsAgain | joins => exact .inl rfl
      | leaves => exact .inr ⟨_, rfl, rfl⟩
      | dropsAgain | drops | leavesDrop => cases plain
      | _ => cases covers

theorem Meets.caller {ops : List (Operation α)} {notes new : List (Note α)} {s t : Batch α}
    {c c' : Caller α} (h : Meets ops c) (kept : ∀ op ∈ ops, op ≠ .drop)
    (books : Books ops notes s c) (sound : Sound s) (plain : c.implied = false)
    (calm : c'.spoils = false) (hm : c.Moves s t c' new) : Meets ops c' where
  outcome := fun r now => hm.outcome sound.healthy calm h.outcome now
  answer := by
    rintro before op rfl
    have undropped := kept op (List.mem_append_right _ (List.mem_singleton_self _))
    rcases h.answer before op rfl with covers | rfl
    · have closed := books.closed
      rw [Ledger.of_append_singleton, Ledger.closed_enter] at closed
      refine (hm.covered sound books.clears.orders calm plain op covers).imp_right fun back => ?_
      cases op with
      | receive a => exact back
      | flush limit =>
          -- A flush leaves the processor as open as it was.
          have same : (Ledger.of before).closed = s.control.shutdownRequested := by
            have other : c.closes = false := by cases c <;> first | rfl | cases covers
            simpa [other, Ledger.shuts] using closed
          rw [back, Ledger.answer, same]
      | shutdown limit =>
          obtain ⟨r, outcome, rfl⟩ := back
          rw [h.outcome r outcome]
          rfl
      | drop => exact absurd rfl undropped
    · cases hm

theorem Solo.meets (h : Solo name config labels notes s) :
    Meets (operations labels) s.latest := by
  refine (h.follows (P := fun ops notes s c => (∀ op ∈ ops, op ≠ .drop) ∧
    Books ops notes s c ∧ Meets ops c) ⟨nofun, .blank name config, nofun, ?_⟩ ?_ ?_ ?_).2.2
  · intro before op cut
    simp at cut
  · intro ops notes s r op callers sound kept ⟨all, books, _⟩
    refine ⟨fun other mem => ?_, books.begins sound op kept callers, .begins ops op⟩
    rcases List.mem_append.1 mem with old | new
    · exact all other old
    · exact List.mem_singleton.1 new ▸ kept
  · intro ops notes new s t c c' callers sound hc plain calm hm ⟨all, books, meets⟩
    exact ⟨all, books.caller sound hc plain calm hm callers,
      meets.caller all books sound plain calm hm⟩
  · intro ops notes new s t w c sound healthy hm ⟨all, books, meets⟩
    have next := books.worker sound hm healthy
    exact ⟨⟨all, next, meets⟩, all, next.notify, meets.notify⟩

/-- A call that is not the latest one has returned before the last step. -/
theorem Solo.returned_earlier {label : Label α} {new : List (Note α)} {u : Batch α} {i : Nat}
    {r : Option ProcessorResult} (before : Solo name config labels notes s)
    (hm : s.Moves label u new) (earlier : i + 1 < u.callers.length)
    (hc : u.callers[i]? = some (.done r)) : s.callers[i]? = some (.done r) := by
  have length := hm.callers_length
  rcases hm.caller_from hc with ⟨op, rfl, rfl, -, rfl⟩ | ⟨c, hd, ⟨hl, t, moves, rfl⟩ | ⟨-, same⟩⟩
  · rw [List.length_append] at earlier
    exact absurd earlier (Nat.lt_irrefl _)
  · rw [List.length_set] at earlier
    obtain ⟨r', rfl⟩ := before.run.returned_before before.one rfl i c hd earlier
    cases moves
  · rcases same with rfl | woken
    · exact hd
    · obtain rfl : c = .done r := by cases c <;> first | exact woken.symm | cases woken
      exact hd

/-- The latest call returns what the ledger says. -/
theorem Solo.answers_latest (h : Solo name config labels notes s) {before : List (Operation α)}
    {op : Operation α} {r : Option ProcessorResult} (cut : operations labels = before ++ [op])
    (back : s.latest = .done r) : r = (Ledger.of before).answer op := by
  rcases h.meets.answer before op cut with covers | answered
  · rw [back] at covers
    cases op <;> cases covers
  · exact Caller.done.inj (back.symm.trans answered)

/-- Every call returns what the ledger says. -/
theorem Solo.answers (h : Solo name config labels notes s) {i : Nat} {op : Operation α}
    {r : Option ProcessorResult} (hop : (operations labels)[i]? = some op)
    (hc : s.callers[i]? = some (.done r)) :
    r = (Ledger.of ((operations labels).take i)).answer op := by
  have run := h.run
  induction run with
  | nil => cases hc
  | @snoc t u labels notes new label run step ih =>
      have length : u.callers.length = 0 + (operations (labels ++ [label])).length :=
        h.run.callers_length
      rcases Nat.lt_or_ge (i + 1) u.callers.length with earlier | last
      · have back := (h.before run step).returned_earlier (moves_of_step step) earlier hc
        have begun : t.callers.length = 0 + (operations labels).length := run.callers_length
        have within : i < (operations labels).length := by
          have := (List.getElem?_eq_some_iff.1 back).1
          omega
        rw [operations_append, List.getElem?_append_left within] at hop
        rw [operations_append, List.take_append_of_le_length (Nat.le_of_lt within)]
        exact ih (h.before run step) hop back
      · exact h.answers_latest (Ledger.take_append_last hop (by omega)) (latest_eq hc last)

/-- The place of a call when all calls have returned. -/
theorem Solo.answered (h : Solo name config labels notes s)
    (returned : ∀ c ∈ s.callers, ∃ r, c = .done r) {i : Nat} {op : Operation α}
    (hop : (operations labels)[i]? = some op) :
    s.callers[i]? = some (.done ((Ledger.of ((operations labels).take i)).answer op)) := by
  have length : s.callers.length = 0 + (operations labels).length := h.run.callers_length
  have lt := (List.getElem?_eq_some_iff.1 hop).1
  have hc := List.getElem?_eq_getElem (l := s.callers) (i := i) (by omega)
  obtain ⟨r, back⟩ := returned _ (List.mem_of_getElem? hc)
  rw [back] at hc
  rw [hc, h.answers hop hc]

end Telemetry.Batch
