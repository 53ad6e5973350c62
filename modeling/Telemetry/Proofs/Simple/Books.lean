import Telemetry.Proofs.Simple.Solo

set_option autoImplicit false

/-! # A simple processor keeps its ledger

What the latest call has still to do is read off its place; with it the exporter, the counters and
the flag show the ledger in every state of a run with one caller. Every call returns what the ledger
says. -/

namespace Telemetry.Simple

variable {α : Type}

/-! ## What a call has still to do -/

/-- The records that the call is still to hand over. -/
def Caller.brings (late : Bool) : Caller α → List α
  | .receiving a => if late then [] else [a]
  | .counting a => [a]
  | .locking (.send batch) => batch
  | _ => []

/-- The call is still to flush the exporter. -/
def Caller.asks (late : Bool) : Caller α → Bool
  | .flushing _ => !late
  | .locking (.flush _) => true
  | _ => false

/-- The call is still to count its record as received. -/
def Caller.unreceived (late : Bool) : Caller α → Bool
  | .receiving _ => !late
  | .counting _ => true
  | _ => false

/-- The call is still to count its record as refused. -/
def Caller.unrefused (late : Bool) : Caller α → Bool
  | .receiving _ => late
  | .refusing => true
  | _ => false

/-- The call is still to count its record as exported. -/
def Caller.unexported (late : Bool) : Caller α → Bool
  | .receiving _ => !late
  | .counting _ | .locking (.send _) | .calling (.send _) => true
  | _ => false

/-- The call is still to set the flag. -/
def Caller.closes : Caller α → Bool
  | .closing _ => true
  | _ => false

/-- The call has set the flag and waits for the exporter's shutdown. -/
def Caller.ends : Caller α → Bool
  | .locking (.close _) | .calling (.close _) => true
  | _ => false

/-- The call flushes the exporter, or waits for the lock to do so. -/
def Caller.flushes : Caller α → Bool
  | .locking (.flush _) | .calling (.flush _) => true
  | _ => false

/-- A place behind a failure. -/
def Caller.fails : Caller α → Bool
  | .naming _ => true
  | _ => false

/-! ## The ledger -/

/-- The ledger of some calls. -/
def ledger (ops : List (Operation α)) : Ledger α :=
  Ledger.of (ops.map Operation.onBatch)

theorem ledger_append_singleton (ops : List (Operation α)) (op : Operation α) :
    ledger (ops ++ [op]) = (ledger ops).enter op.onBatch := by
  rw [ledger, List.map_append]
  exact Ledger.of_append_singleton _ _

/-- What the flag and the exporter's answer say of each other. -/
structure Closes (s : Simple α) (c : Caller α) : Prop where
  flag : s.shutdownResult.isSome = true ∨ c.ends = true → s.isShutdown = true
  answered : s.isShutdown = true → c.ends = false → s.shutdownResult.isSome = true
  result : ∀ r, s.shutdownResult = some r → r = .ok ()
  entered : c.flushes = true → s.isShutdown = false
  healthy : c.fails = false

/-- With what the latest call has still to do, the exporter and the counters show the ledger. -/
structure Books (ops : List (Operation α)) (notes : List (Note α)) (s : Simple α)
    (c : Caller α) : Prop where
  closing : Closes s c
  closed : (ledger ops).closed = (s.isShutdown || c.closes)
  records : delivered (calls notes) ++ c.brings s.isShutdown = (ledger ops).records
  flushes : tally .flush (calls notes) + (c.asks s.isShutdown).toNat = (ledger ops).flushes
  shuts : tally .close (calls notes) = (s.shutdownResult.isSome || c.shuts).toNat
  received : s.counters.received + (c.unreceived s.isShutdown).toNat.toUInt64 =
    (ledger ops).records.length.toUInt64
  exported : s.counters.exported + (c.unexported s.isShutdown).toNat.toUInt64 =
    (ledger ops).records.length.toUInt64
  recordsFailed : s.counters.recordsFailed = 0
  refused : s.counters.droppedAfterShutdown + (c.unrefused s.isShutdown).toNat.toUInt64 =
    (ledger ops).refused.toUInt64

theorem Closes.blank : Closes (start : Simple α) (.done .received) where
  flag := by rintro (answer | ends) <;> contradiction
  answered := nofun
  result := nofun
  entered := nofun
  healthy := rfl

theorem Books.blank : Books [] [] (start : Simple α) (.done .received) where
  closing := .blank
  closed := rfl
  records := rfl
  flushes := rfl
  shuts := rfl
  received := rfl
  exported := rfl
  recordsFailed := rfl
  refused := rfl

theorem Operation.place_outside_ends (op : Operation α) :
    op.place.ends = false ∧ op.place.flushes = false ∧ op.place.fails = false := by
  cases op <;> exact ⟨rfl, rfl, rfl⟩

theorem Books.begins {ops : List (Operation α)} {notes : List (Note α)} {s : Simple α}
    {r : Return} (h : Books ops notes s (.done r)) (op : Operation α)
    (callers : List (Caller α)) :
    Books (ops ++ [op]) notes { s with callers := callers } op.place := by
  obtain ⟨closing, closed, records, flushes, shuts, received, exported, failed, refused⟩ := h
  obtain ⟨flag, answered, result, -, -⟩ := closing
  obtain ⟨ends, outside, healthy⟩ := op.place_outside_ends
  have late : (ledger ops).closed = s.isShutdown := closed.trans (Bool.or_false _)
  have records : delivered (calls notes) = (ledger ops).records :=
    (List.append_nil _).symm.trans records
  have received : s.counters.received = (ledger ops).records.length.toUInt64 :=
    (UInt64.add_zero _).symm.trans received
  have exported : s.counters.exported = (ledger ops).records.length.toUInt64 :=
    (UInt64.add_zero _).symm.trans exported
  have refused : s.counters.droppedAfterShutdown = (ledger ops).refused.toUInt64 :=
    (UInt64.add_zero _).symm.trans refused
  have flushes : tally .flush (calls notes) = (ledger ops).flushes := flushes
  have one (n : Nat) : (n + 1).toUInt64 = n.toUInt64 + 1 := UInt64.ofNat_add n 1
  constructor
  case closing =>
    refine ⟨fun h => flag (h.imp_right fun now => ?_), fun now _ => answered now rfl, result,
      fun now => ?_, healthy⟩
    · exact absurd (ends.symm.trans now) nofun
    · exact absurd (outside.symm.trans now) nofun
  case closed =>
    rw [ledger_append_singleton, Ledger.closed_enter, late]
    cases op <;> rfl
  case shuts =>
    rw [shuts]
    cases op <;> rfl
  case recordsFailed => exact failed
  -- What remains is what the call still has to do, and that is what the ledger adds.
  all_goals
    rw [ledger_append_singleton]
    cases op <;> cases now : s.isShutdown <;>
      simp [Ledger.enter, late, now, records, flushes, received, exported, refused, one,
        Operation.place, Operation.onBatch, Caller.brings, Caller.asks, Caller.unreceived,
        Caller.unexported, Caller.unrefused]

theorem Closes.caller {s t : Simple α} {i : Nat} {c c' : Caller α} {new : List (Note α)}
    (h : Closes s c) (ok : ∀ o ∈ outcomes new, o.guarded = .ok ()) (hm : c.Moves s i t c' new)
    (callers : List (Caller α)) : Closes { t with callers := callers } c' := by
  obtain ⟨flag, answered, result, entered, healthy⟩ := h
  cases hm with
  | notSent failed => exact absurd (failed.symm.trans (ok _ (List.mem_singleton_self _))) nofun
  | reports | panics => cases healthy
  | closes => exact ⟨fun _ => rfl, nofun, result, nofun, rfl⟩
  | closesAgain _ answer =>
      refine ⟨fun _ => flag (.inr rfl), fun _ _ => ?_, result, nofun, rfl⟩
      rw [answer]
      rfl
  | closed =>
      refine ⟨fun _ => flag (.inr rfl), fun _ _ => rfl, ?_, nofun, rfl⟩
      rintro r ⟨⟩
      rw [ok _ (List.mem_singleton_self _)]
      rfl
  | @locks request => cases request <;> exact ⟨flag, answered, result, entered, rfl⟩
  | flushes running =>
      exact ⟨fun h => flag (h.imp_right nofun), fun now _ => answered now rfl, result,
        fun _ => running, rfl⟩
  | comesLate | enters | countsLate | countsReceived | flushesLate | sent | flushed =>
      exact ⟨fun h => flag (h.imp_right nofun), fun now _ => answered now rfl, result, nofun, rfl⟩

/-! ## Steps -/

/-- A step hands over the records that it takes off the call. -/
theorem Caller.Moves.flow {s t : Simple α} {i : Nat} {c c' : Caller α} {new : List (Note α)}
    (h : c.Moves s i t c' new) :
    delivered (calls new) ++ c'.brings t.isShutdown = c.brings s.isShutdown := by
  cases h with
  | comesLate late => simp [Caller.brings, late, calls, delivered, Batch.batches]
  | enters running => simp [Caller.brings, running, calls, delivered, Batch.batches]
  | @locks request => cases request <;> simp [Caller.brings, calls, Note.request?,
      delivered, Batch.batches, Request.batch?]
  | _ => rfl

theorem Caller.Moves.asks {s t : Simple α} {i : Nat} {c c' : Caller α} {new : List (Note α)}
    (h : c.Moves s i t c' new) :
    tally .flush (calls new) + (c'.asks t.isShutdown).toNat = (c.asks s.isShutdown).toNat := by
  cases h with
  | flushesLate late => simp [Caller.asks, late, calls, tally]
  | flushes running => simp [Caller.asks, running, calls, tally]
  | @locks request => cases request <;> rfl
  | _ => rfl

theorem Caller.Moves.isClosed {s t : Simple α} {i : Nat} {c c' : Caller α} {new : List (Note α)}
    (h : c.Moves s i t c' new) :
    (t.isShutdown || c'.closes) = (s.isShutdown || c.closes) := by
  cases h with
  | closes => exact (Bool.true_or _).trans (Bool.or_true _).symm
  | _ => rfl

theorem Caller.Moves.shuts {s t : Simple α} {i : Nat} {c c' : Caller α} {new : List (Note α)}
    (h : c.Moves s i t c' new) :
    (t.shutdownResult.isSome || c'.shuts).toNat =
      tally .close (calls new) + (s.shutdownResult.isSome || c.shuts).toNat := by
  cases h with
  | @locks request _ first =>
      cases request with
      | close limit =>
          rw [first rfl]
          rfl
      | send | flush => exact (Nat.zero_add _).symm
  | closed =>
      refine Eq.trans ?_ (Nat.zero_add _).symm
      rw [show Caller.shuts (.calling (.close _)) = true from rfl, Bool.or_true]
      rfl
  | _ => exact (Nat.zero_add _).symm

/-- What a step counts is what the call had still to count. -/
theorem Caller.Moves.counts {s t : Simple α} {i : Nat} {c c' : Caller α} {new : List (Note α)}
    (h : c.Moves s i t c' new) (calm : c'.fails = false) :
    t.counters.received + (c'.unreceived t.isShutdown).toNat.toUInt64 =
        s.counters.received + (c.unreceived s.isShutdown).toNat.toUInt64 ∧
      t.counters.exported + (c'.unexported t.isShutdown).toNat.toUInt64 =
        s.counters.exported + (c.unexported s.isShutdown).toNat.toUInt64 ∧
      t.counters.droppedAfterShutdown + (c'.unrefused t.isShutdown).toNat.toUInt64 =
        s.counters.droppedAfterShutdown + (c.unrefused s.isShutdown).toNat.toUInt64 ∧
      t.counters.recordsFailed = s.counters.recordsFailed := by
  cases h with
  | comesLate late =>
      simp [Caller.unreceived, Caller.unexported, Caller.unrefused, late]
  | enters running =>
      simp [Caller.unreceived, Caller.unexported, Caller.unrefused, running]
  | countsLate | countsReceived =>
      simp [Caller.unreceived, Caller.unexported, Caller.unrefused, count, Counters.dropLate,
        Counters.receive]
  | sent =>
      simp [Caller.unreceived, Caller.unexported, Caller.unrefused, count, unlock,
        Counters.exportRecords, Counters.exportBatch]
  | notSent => cases calm
  | @locks request => cases request <;> exact ⟨rfl, rfl, rfl, rfl⟩
  | _ => exact ⟨rfl, rfl, rfl, rfl⟩

theorem Books.caller {ops : List (Operation α)} {notes new : List (Note α)} {s t : Simple α}
    {i : Nat} {c c' : Caller α} (h : Books ops notes s c)
    (ok : ∀ o ∈ outcomes new, o.guarded = .ok ()) (hm : c.Moves s i t c' new)
    (callers : List (Caller α)) :
    Books ops (notes ++ new) { t with callers := callers } c' := by
  have closing := h.closing.caller ok hm callers
  obtain ⟨received, exported, refused, failed⟩ := hm.counts closing.healthy
  constructor
  case closing => exact closing
  case closed => exact h.closed.trans hm.isClosed.symm
  case records =>
    rw [calls_append, delivered_append, List.append_assoc]
    exact (congrArg _ hm.flow).trans h.records
  case flushes =>
    rw [calls_append, tally_append, Nat.add_assoc]
    exact (congrArg _ hm.asks).trans h.flushes
  case shuts =>
    rw [calls_append, tally_append, h.shuts, Nat.add_comm]
    exact hm.shuts.symm
  case received => exact received.trans h.received
  case exported => exact exported.trans h.exported
  case recordsFailed => exact failed.trans h.recordsFailed
  case refused => exact refused.trans h.refused

variable {labels : List (Label α)} {notes : List (Note α)} {s : Simple α}

/-- A run with one caller keeps the ledger of its calls. -/
theorem Solo.books (h : Solo labels notes s) : Books (operations labels) notes s s.latest :=
  h.follows .blank (fun op callers books => books.begins op callers)
    (fun callers ok hm books => books.caller ok hm callers)

/-- Whenever a call has returned, the exporter and the counters show the ledger. -/
theorem Solo.shows (h : Solo labels notes s) {r : Return} (back : s.latest = .done r) :
    (ledger (operations labels)).Shows (calls notes) s.counters := by
  have books := h.books
  rw [back] at books
  obtain ⟨closing, closed, records, flushes, shuts, received, exported, failed, refused⟩ := books
  constructor
  case records => exact (List.append_nil _).symm.trans records
  case flushes => exact flushes
  case closes =>
    rw [shuts, closed]
    refine congrArg Bool.toNat ?_
    show (s.shutdownResult.isSome || false) = (s.isShutdown || false)
    rw [Bool.or_false, Bool.or_false]
    cases now : s.isShutdown with
    | true => exact closing.answered now rfl
    | false =>
        refine Bool.eq_false_iff.2 fun answer => ?_
        exact absurd (now.symm.trans (closing.flag (.inl answer))) nofun
  case received => exact (UInt64.add_zero _).symm.trans received
  case exported => exact (UInt64.add_zero _).symm.trans exported
  case recordsFailed => exact failed
  case refused => exact (UInt64.add_zero _).symm.trans refused

/-! ## The results -/

/-- The result that a call has returned, if it has one. -/
def Return.result? : Return → Option ProcessorResult
  | .answered r => some r
  | _ => none

/-- Whether a place is one of those that a call goes through before it returns. -/
def Operation.covers : Operation α → Caller α → Bool
  | .receive _, .receiving _ | .receive _, .refusing | .receive _, .counting _ => true
  | .receive _, .locking (.send _) | .receive _, .calling (.send _) => true
  | .flush _, .flushing _ => true
  | .flush _, c => c.flushes
  | .shutdown _, .closing _ => true
  | .shutdown _, c => c.ends
  | _, _ => false

theorem Operation.covers_place (op : Operation α) : op.covers op.place = true := by
  cases op <;> rfl

/-- A call goes on or returns, a flush with what the flag says. -/
theorem Caller.Moves.covered {s t : Simple α} {i : Nat} {c c' : Caller α} {new : List (Note α)}
    (h : c.Moves s i t c' new) (closing : Closes s c)
    (ok : ∀ o ∈ outcomes new, o.guarded = .ok ()) (op : Operation α)
    (covers : op.covers c = true) :
    op.covers c' = true ∨ ∃ r, c' = .done r ∧ r.result? =
      (match op with
      | .receive _ => none
      | .flush _ => some (if s.isShutdown then .error .alreadyShutdown else .ok ())
      | .shutdown _ => some (.ok ())) := by
  cases op with
  | receive a =>
      cases h with
      | countsLate | sent => exact .inr ⟨_, rfl, rfl⟩
      | notSent failed => exact absurd (failed.symm.trans (ok _ (List.mem_singleton_self _))) nofun
      | comesLate | enters | countsReceived => exact .inl rfl
      | @locks request => cases request <;> first | exact .inl rfl | cases covers
      | _ => cases covers
  | flush limit =>
      cases h with
      | flushesLate late =>
          refine .inr ⟨_, rfl, ?_⟩
          rw [late]
          rfl
      | flushes => exact .inl rfl
      | @locks request => cases request <;> first | exact .inl rfl | cases covers
      | flushed =>
          refine .inr ⟨_, rfl, ?_⟩
          rw [closing.entered rfl, ok _ (List.mem_singleton_self _)]
          rfl
      | _ => cases covers
  | shutdown limit =>
      cases h with
      | closes => exact .inl rfl
      | closesAgain _ answer =>
          refine .inr ⟨_, rfl, ?_⟩
          rw [closing.result _ answer]
          rfl
      | @locks request => cases request <;> first | exact .inl rfl | cases covers
      | closed =>
          refine .inr ⟨_, rfl, ?_⟩
          rw [ok _ (List.mem_singleton_self _)]
          rfl
      | _ => cases covers

/-- The latest call is under way, or it has returned what the ledger says. -/
def Meets (ops : List (Operation α)) (c : Caller α) : Prop :=
  ∀ before op, ops = before ++ [op] →
    op.covers c = true ∨ ∃ r, c = .done r ∧ r.result? = (ledger before).answer op.onBatch

theorem Meets.begins (ops : List (Operation α)) (op : Operation α) :
    Meets (ops ++ [op]) op.place := by
  intro before latest cut
  obtain ⟨-, last⟩ := List.append_inj' cut rfl
  obtain rfl := List.head_eq_of_cons_eq last
  exact .inl op.covers_place

theorem Meets.caller {ops : List (Operation α)} {notes new : List (Note α)} {s t : Simple α}
    {i : Nat} {c c' : Caller α} (h : Meets ops c) (books : Books ops notes s c)
    (ok : ∀ o ∈ outcomes new, o.guarded = .ok ()) (hm : c.Moves s i t c' new) :
    Meets ops c' := by
  rintro before op rfl
  rcases h before op rfl with covers | ⟨r, rfl, -⟩
  · refine (hm.covered books.closing ok op covers).imp_right fun ⟨r, back, result⟩ => ?_
    refine ⟨r, back, result.trans ?_⟩
    have closed := books.closed
    rw [ledger_append_singleton, Ledger.closed_enter] at closed
    cases op with
    | receive a => rfl
    | flush limit =>
        -- A flush leaves the processor as open as it was.
        have same : (ledger before).closed = s.isShutdown := by
          have other : c.closes = false := by cases c <;> first | rfl | cases covers
          simpa [other, Ledger.shuts, Operation.onBatch] using closed
        rw [Operation.onBatch, Ledger.answer, same]
    | shutdown limit => rfl
  · cases hm

theorem Solo.meets (h : Solo labels notes s) : Meets (operations labels) s.latest := by
  refine (h.follows (P := fun ops notes s c => Books ops notes s c ∧ Meets ops c)
    ⟨.blank, ?_⟩ ?_ ?_).2
  · intro before op cut
    simp at cut
  · intro ops notes s r op callers ⟨books, _⟩
    exact ⟨books.begins op callers, .begins ops op⟩
  · intro ops notes new s t i c c' callers ok hm ⟨books, meets⟩
    exact ⟨books.caller ok hm callers, meets.caller books ok hm⟩

/-- The latest call returns what the ledger says. -/
theorem Solo.answers_latest (h : Solo labels notes s) {before : List (Operation α)}
    {op : Operation α} {r : Return} (cut : operations labels = before ++ [op])
    (back : s.latest = .done r) : r.result? = (ledger before).answer op.onBatch := by
  rcases h.meets before op cut with covers | ⟨r', answered, result⟩
  · rw [back] at covers
    cases op <;> cases covers
  · obtain rfl := Caller.done.inj (back.symm.trans answered)
    exact result

/-- A call that is not the latest one has returned before the last step. -/
theorem Solo.returned_earlier {label : Label α} {new : List (Note α)} {u : Simple α} {i : Nat}
    {r : Return} (before : Solo labels notes s) (hm : s.Moves label u new)
    (earlier : i + 1 < u.callers.length) (hc : u.callers[i]? = some (.done r)) :
    s.callers[i]? = some (.done r) := by
  cases hm with
  | begins op =>
      rw [List.length_append, List.length_singleton] at earlier
      rwa [List.getElem?_append_left (by omega)] at hc
  | @caller label j d d' v _ _ hd moves =>
      rw [List.length_set] at earlier
      by_cases same : j = i
      · subst same
        obtain ⟨r', rfl⟩ := before.returned_before j d hd earlier
        cases moves
      · rwa [List.getElem?_set_ne same] at hc

/-- Every call returns what the ledger says. -/
theorem Solo.answers (h : Solo labels notes s) {i : Nat} {op : Operation α} {r : Return}
    (hop : (operations labels)[i]? = some op) (hc : s.callers[i]? = some (.done r)) :
    r.result? = (ledger ((operations labels).take i)).answer op.onBatch := by
  have run := h.run
  induction run with
  | nil => cases hc
  | @snoc t u labels notes new label run step ih =>
      have before := h.before run
      have length : u.callers.length = 0 + (operations (labels ++ [label])).length :=
        h.run.callers_length
      rcases Nat.lt_or_ge (i + 1) u.callers.length with earlier | last
      · have back := before.returned_earlier (moves_of_step step) earlier hc
        have begun : t.callers.length = 0 + (operations labels).length := run.callers_length
        have within : i < (operations labels).length := by
          have := (List.getElem?_eq_some_iff.1 back).1
          omega
        rw [operations_append, List.getElem?_append_left within] at hop
        rw [operations_append, List.take_append_of_le_length (Nat.le_of_lt within)]
        exact ih before hop back
      · exact h.answers_latest (Ledger.take_append_last hop (by omega)) (latest_eq hc last)

/-- The place of a call when all calls have returned. -/
theorem Solo.answered (h : Solo labels notes s) (returned : ∀ c ∈ s.callers, ∃ r, c = .done r)
    {i : Nat} {op : Operation α} (hop : (operations labels)[i]? = some op) :
    ∃ r, s.callers[i]? = some (.done r) ∧
      r.result? = (ledger ((operations labels).take i)).answer op.onBatch := by
  have length : s.callers.length = 0 + (operations labels).length := h.run.callers_length
  have lt := (List.getElem?_eq_some_iff.1 hop).1
  have hc := List.getElem?_eq_getElem (l := s.callers) (i := i) (by omega)
  obtain ⟨r, back⟩ := returned _ (List.mem_of_getElem? hc)
  rw [back] at hc
  exact ⟨r, hc, h.answers hop hc⟩

end Telemetry.Simple
