import Telemetry.Simple.Basic

set_option autoImplicit false

/-! # Steps and runs of a simple processor, as rules

The rules say what a step of a caller can do: what has to hold for it and all that it changes.
Proofs about runs go by cases on the rules. The exporter's answer and its name are part of the
rules, since a caller waits for both. -/

namespace Telemetry.Simple

variable {α : Type}

/-! ## Callers -/

/-- The rules of caller number `i`. -/
inductive Caller.Moves (s : Simple α) (i : Nat) :
    Caller α → Simple α → Caller α → List (Note α) → Prop where
  | comesLate {a : α} : s.isShutdown = true → Moves s i (.receiving a) s .refusing []
  | enters {a : α} : s.isShutdown = false → Moves s i (.receiving a) s (.counting a) []
  | countsLate : Moves s i .refusing (s.count fun c => c.dropLate 1) (.done .received) []
  | countsReceived {a : α} :
      Moves s i (.counting a) (s.count Counters.receive) (.locking (.send [a])) []
  | flushesLate {limit : Duration} : s.isShutdown = true →
      Moves s i (.flushing limit) s (.done (.answered (.error .alreadyShutdown))) []
  | flushes {limit : Duration} : s.isShutdown = false →
      Moves s i (.flushing limit) s (.locking (.flush limit)) []
  | closes {limit : Duration} :
      Moves s i (.closing limit) { s with isShutdown := true } (.locking (.close limit)) []
  | closesAgain {limit : Duration} {r : ProcessorResult} : s.holder = none →
      s.shutdownResult = some r → Moves s i (.locking (.close limit)) s (.done (.answered r)) []
  | locks {request : Request α} : s.holder = none →
      (request.kind = .close → s.shutdownResult = none) →
      Moves s i (.locking request) { s with holder := some i } (.calling request)
        [.calls request]
  | sent {batch : List α} {o : Outcome} : o.guarded = .ok () →
      Moves s i (.calling (.send batch))
        (s.count fun c => (c.exportRecords 1).exportBatch).unlock (.done .received) [.ended o]
  | notSent {batch : List α} {o : Outcome} {e : ExportError} : o.guarded = .error e →
      Moves s i (.calling (.send batch)) (s.count fun c => c.failCall.failRecords 1) (.naming e)
        [.ended o]
  | flushed {limit : Duration} {o : Outcome} :
      Moves s i (.calling (.flush limit)) s.unlock (.done (.answered o.guarded.toProcessor))
        [.ended o]
  | closed {limit : Duration} {o : Outcome} :
      Moves s i (.calling (.close limit))
        { s with shutdownResult := some o.guarded.toProcessor, holder := none }
        (.done (.answered o.guarded.toProcessor)) [.ended o]
  | reports {e : ExportError} {name : String} :
      Moves s i (.naming e) s.unlock (.done .received) [.event (failureEvent name e)]
  | panics {e : ExportError} {p : Panic} :
      Moves s i (.naming e) s.unlock (.done (.panicked p)) []

theorem Caller.moves_lock {s : Simple α} {i : Nat} {request : Request α}
    (free : s.holder = none) :
    Moves s i (.locking request) (s.lock i request).state (s.lock i request).place
      (s.lock i request).notes := by
  unfold lock
  split
  · rename_i limit r answered
    exact .closesAgain free answered
  · rename_i request _ _ other
    refine .locks free fun close => ?_
    cases request with
    | close limit =>
        cases answer : s.shutdownResult with
        | none => rfl
        | some r => exact absurd answer (other limit r rfl)
    | _ => cases close

/-- Every step of a caller on its own is by one of the rules. -/
theorem Caller.moves_of_step {s : Simple α} {i : Nat} {c : Caller α} {m : Move α}
    (h : c.step s i = some m) : c.Moves s i m.state m.place m.notes := by
  cases c with
  | receiving a =>
      cases h
      cases flag : s.isShutdown with
      | true => exact .comesLate flag
      | false => exact .enters flag
  | refusing => cases h; exact .countsLate
  | counting a => cases h; exact .countsReceived
  | flushing limit =>
      cases h
      cases flag : s.isShutdown with
      | true => exact .flushesLate flag
      | false => exact .flushes flag
  | closing limit => cases h; exact .closes
  | locking request =>
      simp only [step] at h
      split at h
      · cases h
      · rename_i free
        cases h
        exact moves_lock free
  | calling | naming | done => cases h

/-- Every end of a call on the exporter is by one of the rules. -/
theorem Caller.moves_of_ended {s : Simple α} {i : Nat} {c : Caller α} {o : Outcome} {m : Move α}
    (h : c.ended s o = some m) : c.Moves s i m.state m.place m.notes := by
  cases c with
  | calling request =>
      cases request with
      | send batch =>
          simp only [ended] at h
          split at h
          · rename_i ok
            cases h
            exact .sent ok
          · rename_i e failed
            cases h
            exact .notSent failed
      | flush limit => cases h; exact .flushed
      | close limit => cases h; exact .closed
  | _ => cases h

/-- Every answer to the question for the exporter's name leads on by one of the rules. -/
theorem Caller.moves_of_named {s : Simple α} {i : Nat} {c : Caller α}
    {name : Except Panic String} {m : Move α} (h : c.named s name = some m) :
    c.Moves s i m.state m.place m.notes := by
  cases c with
  | naming e =>
      cases name with
      | ok name => cases h; exact .reports
      | error p => cases h; exact .panics
  | _ => cases h

/-! ## The whole -/

/-- The caller that a label is about, if it is not about a new one. -/
def Label.caller? : Label α → Option Nat
  | .begins _ => none
  | .caller i | .ended i _ | .named i _ => some i

/-- The rules of the whole: a call begins, or a caller moves. -/
inductive Moves (s : Simple α) : Label α → Simple α → List (Note α) → Prop where
  | begins (op : Operation α) :
      Moves s (.begins op) { s with callers := s.callers ++ [op.place] } []
  | caller {label : Label α} {i : Nat} {c c' : Caller α} {t : Simple α} {notes : List (Note α)} :
      label.caller? = some i → s.callers[i]? = some c → c.Moves s i t c' notes →
      Moves s label { t with callers := s.callers.set i c' } notes

/-- A caller's step leaves the other callers alone. -/
theorem Caller.Moves.callers {s t : Simple α} {i : Nat} {c c' : Caller α}
    {notes : List (Note α)} (h : c.Moves s i t c' notes) : t.callers = s.callers := by
  cases h <;> rfl

theorem moves_of_caller {s : Simple α} {label : Label α} {i : Nat} {c : Caller α} {m : Move α}
    (hl : label.caller? = some i) (hc : s.callers[i]? = some c)
    (hm : c.Moves s i m.state m.place m.notes) :
    s.Moves label (moveCaller i m).1 (moveCaller i m).2 := by
  rw [moveCaller, hm.callers]
  exact .caller hl hc hm

theorem moves_of_step {s u : Simple α} {label : Label α} {notes : List (Note α)}
    (h : s.step label = some (u, notes)) : s.Moves label u notes := by
  cases label with
  | begins op => cases h; exact .begins op
  | caller i =>
      simp only [step, Option.bind_eq_bind, Option.bind_eq_some_iff] at h
      obtain ⟨c, hc, m, hm, h⟩ := h
      cases h
      exact moves_of_caller rfl hc (Caller.moves_of_step hm)
  | ended i o =>
      simp only [step, Option.bind_eq_bind, Option.bind_eq_some_iff] at h
      obtain ⟨c, hc, m, hm, h⟩ := h
      cases h
      exact moves_of_caller rfl hc (Caller.moves_of_ended hm)
  | named i name =>
      simp only [step, Option.bind_eq_bind, Option.bind_eq_some_iff] at h
      obtain ⟨c, hc, m, hm, h⟩ := h
      cases h
      exact moves_of_caller rfl hc (Caller.moves_of_named hm)

/-! ## Runs -/

/-- What holds at the start of a run and is kept by each of its steps holds at its end. The notes
of the run so far go along. -/
theorem Run.preserves {p : List (Note α) → Simple α → Prop} {s u : Simple α}
    {labels : List (Label α)} {notes : List (Note α)} (h : Run s labels notes u)
    (kept : ∀ {n t v label new}, p n t → Moves t label v new → p (n ++ new) v) (hs : p [] s) :
    p notes u := by
  induction h with
  | nil => exact hs
  | snoc _ step ih => exact kept ih (moves_of_step step)

theorem Run.append {s t u : Simple α} {labels labels' : List (Label α)}
    {notes notes' : List (Note α)} (h : Run s labels notes t) (h' : Run t labels' notes' u) :
    Run s (labels ++ labels') (notes ++ notes') u := by
  induction h' with
  | nil => simpa using h
  | snoc _ step ih =>
      rw [← List.append_assoc, ← List.append_assoc]
      exact .snoc ih step

/-- The state and the notes at the end of the run along some labels; `none` if what they say cannot
happen. -/
def follow (s : Simple α) : List (Label α) → Option (Simple α × List (Note α))
  | [] => some (s, [])
  | label :: labels =>
    match s.step label with
    | none => none
    | some (t, new) =>
      match t.follow labels with
      | none => none
      | some (u, notes) => some (u, new ++ notes)

theorem Run.of_follow {s u : Simple α} {labels : List (Label α)} {notes : List (Note α)}
    (h : s.follow labels = some (u, notes)) : Run s labels notes u := by
  induction labels generalizing s notes with
  | nil => cases h; exact .nil _
  | cons label labels ih =>
      rw [follow] at h
      split at h
      · cases h
      · rename_i t new step
        split at h
        · cases h
        · rename_i v n rest
          cases h
          have first := Run.snoc (.nil _) step
          exact Run.append first (ih rest)

theorem follow_append_singleton (s : Simple α) (labels : List (Label α)) (label : Label α) :
    s.follow (labels ++ [label]) = (s.follow labels).bind fun x =>
      (x.1.step label).map fun y => (y.1, x.2 ++ y.2) := by
  induction labels generalizing s with
  | nil =>
      simp only [List.nil_append, follow, Option.bind_some]
      cases s.step label <;> simp
  | cons first labels ih =>
      simp only [List.cons_append, follow]
      cases s.step first with
      | none => rfl
      | some x =>
          simp only [ih]
          cases x.1.follow labels with
          | none => rfl
          | some y =>
              simp only [Option.bind_some]
              cases y.1.step label <;> simp

/-- The labels of a run decide everything that happens in it. -/
theorem Run.follow {s u : Simple α} {labels : List (Label α)} {notes : List (Note α)}
    (h : Run s labels notes u) : s.follow labels = some (u, notes) := by
  induction h with
  | nil => rfl
  | snoc _ step ih =>
      rw [follow_append_singleton, ih]
      simp [step]

/-- A run whose end passes a test, found by following its labels. -/
theorem exists_run (s : Simple α) (labels : List (Label α))
    (p : Simple α → List (Note α) → Bool)
    (h : (s.follow labels).any (fun x => p x.1 x.2) = true) :
    ∃ t notes, Run s labels notes t ∧ p t notes = true := by
  cases hf : s.follow labels with
  | none => rw [hf] at h; cases h
  | some x =>
      rw [hf] at h
      exact ⟨x.1, x.2, Run.of_follow hf, h⟩

/-! ## Reading the notes -/

/-- The request of a call that begins. -/
def Note.request? : Note α → Option (Request α)
  | .calls request => some request
  | _ => none

/-- How a call ended. -/
def Note.outcome? : Note α → Option Outcome
  | .ended o => some o
  | _ => none

/-- The calls on the exporter, its name aside. -/
def calls (notes : List (Note α)) : List (Request α) :=
  notes.filterMap Note.request?

/-- How calls on the exporter ended. -/
def outcomes (notes : List (Note α)) : List Outcome :=
  notes.filterMap Note.outcome?

@[simp] theorem calls_append (notes new : List (Note α)) :
    calls (notes ++ new) = calls notes ++ calls new :=
  List.filterMap_append

@[simp] theorem outcomes_append (notes new : List (Note α)) :
    outcomes (notes ++ new) = outcomes notes ++ outcomes new :=
  List.filterMap_append

/-- What the calls of a run ask for, by their numbers. -/
def operations (labels : List (Label α)) : List (Operation α) :=
  labels.filterMap fun label =>
    match label with
    | .begins op => some op
    | _ => none

theorem operations_append (labels labels' : List (Label α)) :
    operations (labels ++ labels') = operations labels ++ operations labels' :=
  List.filterMap_append

end Telemetry.Simple
