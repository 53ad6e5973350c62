import Mathlib.Data.UInt
import Telemetry.Proofs.Ledger
import Telemetry.Proofs.Simple.Shutdown

set_option autoImplicit false

/-! # A simple processor with one caller

One caller makes all calls, one after the other, on an exporter that never fails. Then the
processor keeps the ledger of the calls at every step: what the exporter was asked for, what the
counters say and what the latest call has still to do make up what the ledger says. -/

namespace Telemetry.Simple

variable {α : Type}

/-! ## One caller -/

/-- Each call of the run begins when all calls before it have returned. -/
def OneCaller (s : Simple α) (labels : List (Label α)) : Prop :=
  ∀ before op after notes t, labels = before ++ .begins op :: after → Run s before notes t →
    ∀ c ∈ t.callers, ∃ r, c = .done r

theorem OneCaller.of_append {s : Simple α} {labels new : List (Label α)}
    (h : OneCaller s (labels ++ new)) : OneCaller s labels := by
  intro before op after notes t cut
  exact h before op (after ++ new) notes t (by rw [cut, List.append_assoc, List.cons_append])

/-- Whether a label is the beginning of a call. -/
def Label.isBegins : Label α → Bool
  | .begins _ => true
  | _ => false

/-- Whether a call has returned. -/
def Caller.isDone : Caller α → Bool
  | .done _ => true
  | _ => false

theorem Caller.eq_done_of_isDone {c : Caller α} (h : c.isDone = true) : ∃ r, c = .done r := by
  cases c with
  | done r => exact ⟨r, rfl⟩
  | _ => cases h

/-- Following the labels up to each beginning of a call shows whether there is one caller. -/
theorem OneCaller.of_follow {s : Simple α} {labels : List (Label α)}
    (h : ∀ k < labels.length, (labels[k]?.any Label.isBegins) = true →
      ((s.follow (labels.take k)).all fun x => x.1.callers.all Caller.isDone) = true) :
    OneCaller s labels := by
  rintro before op after notes t rfl run c hc
  have found := h before.length (by simp) (by simp [Label.isBegins])
  rw [List.take_left, run.follow, Option.all_some, List.all_eq_true] at found
  exact Caller.eq_done_of_isDone (found c hc)

/-- The latest call. -/
def latest (s : Simple α) : Caller α :=
  s.callers.getLast?.getD (.done .received)

theorem latest_eq {s : Simple α} {i : Nat} {c : Caller α} (hc : s.callers[i]? = some c)
    (last : s.callers.length ≤ i + 1) : s.latest = c := by
  have lt := (List.getElem?_eq_some_iff.1 hc).1
  have position : s.callers.length - 1 = i := by omega
  rw [latest, List.getLast?_eq_getElem?, position, hc]
  rfl

theorem latest_of_returned {s : Simple α} (returned : ∀ c ∈ s.callers, ∃ r, c = .done r) :
    ∃ r, s.latest = .done r := by
  rw [latest]
  cases last : s.callers.getLast? with
  | none => exact ⟨.received, rfl⟩
  | some c => exact returned c (List.mem_of_getLast? last)

/-- A run with one caller and an exporter that never fails. -/
structure Solo (labels : List (Label α)) (notes : List (Note α)) (s : Simple α) : Prop where
  run : Run start labels notes s
  one : OneCaller start labels
  succeeds : ∀ o ∈ outcomes notes, o.guarded = .ok ()

variable {labels : List (Label α)} {notes : List (Note α)} {s : Simple α}

/-- What such a run is, it was before its last step. -/
theorem Solo.before {label : Label α} {new : List (Note α)} {u : Simple α}
    (h : Solo (labels ++ [label]) (notes ++ new) u) (run : Run start labels notes s) :
    Solo labels notes s where
  run := run
  one := h.one.of_append
  succeeds := fun o ho => h.succeeds o (outcomes_append notes new ▸ List.mem_append_left _ ho)

theorem Moves.callers_length {u : Simple α} {label : Label α} {new : List (Note α)}
    (h : s.Moves label u new) :
    u.callers.length = s.callers.length + (operations [label]).length := by
  cases h with
  | begins op => exact List.length_append
  | @caller label i c c' t _ hl _ hm =>
      have none : operations [label] = [] := by
        cases label with
        | begins op => cases hl
        | _ => rfl
      rw [none]
      exact List.length_set

theorem Run.callers_length {t : Simple α} (run : Run s labels notes t) :
    t.callers.length = s.callers.length + (operations labels).length := by
  induction run with
  | nil => rfl
  | snoc run step ih =>
      rw [(moves_of_step step).callers_length, ih, operations_append, List.length_append,
        Nat.add_assoc]

/-- Earlier calls have returned. -/
theorem Solo.returned_before (h : Solo labels notes s) :
    ∀ (i : Nat) (c : Caller α), s.callers[i]? = some c → i + 1 < s.callers.length →
      ∃ r, c = .done r := by
  have run := h.run
  induction run with
  | nil => exact nofun
  | @snoc t u labels notes new label run step ih =>
      have before := ih (h.before run)
      intro i c hc lt
      cases moves_of_step step with
      | begins op =>
          rw [List.length_append, List.length_singleton] at lt
          rw [List.getElem?_append_left (by omega)] at hc
          exact h.one labels op [] notes t rfl run c (List.mem_of_getElem? hc)
      | @caller label j d d' v _ _ hd hm =>
          rw [List.length_set] at lt
          by_cases same : j = i
          · subst same
            obtain ⟨r, rfl⟩ := before j d hd lt
            cases hm
          · rw [List.getElem?_set_ne same] at hc
            exact before i c hc lt

/-- Only the latest call moves. -/
theorem Solo.latest_moves (h : Solo labels notes s) {i : Nat} {c : Caller α}
    (hc : s.callers[i]? = some c) (moves : ∀ r, c ≠ .done r) :
    s.latest = c ∧ i + 1 = s.callers.length := by
  have lt := (List.getElem?_eq_some_iff.1 hc).1
  have last : i + 1 = s.callers.length := by
    by_contra other
    obtain ⟨r, rfl⟩ := h.returned_before i c hc (by omega)
    exact moves r rfl
  exact ⟨latest_eq hc (Nat.le_of_eq last.symm), last⟩

/-- What is true at the start and kept by each beginning and each step of the latest call is true
at the end of a run with one caller. `callers` stands for lists of calls that do not matter. -/
theorem Solo.follows {P : List (Operation α) → List (Note α) → Simple α → Caller α → Prop}
    (blank : P [] [] start (.done .received))
    (begins : ∀ {ops notes s r} (op : Operation α) (callers : List (Caller α)),
      P ops notes s (.done r) → P (ops ++ [op]) notes { s with callers := callers } op.place)
    (caller : ∀ {ops notes new s t i c c'} (callers : List (Caller α)),
      (∀ o ∈ outcomes new, o.guarded = .ok ()) → Caller.Moves s i c t c' new → P ops notes s c →
      P ops (notes ++ new) { t with callers := callers } c')
    (h : Solo labels notes s) : P (operations labels) notes s s.latest := by
  have run := h.run
  induction run with
  | nil => exact blank
  | @snoc t u labels notes new label run step ih =>
      have before := h.before run
      have now := ih before
      have ok : ∀ o ∈ outcomes new, o.guarded = .ok () := fun o ho =>
        h.succeeds o (outcomes_append notes new ▸ List.mem_append_right _ ho)
      rw [operations_append]
      cases moves_of_step step with
      | begins op =>
          obtain ⟨r, returned⟩ := latest_of_returned (h.one labels op [] notes t rfl run)
          rw [returned] at now
          have latest : ({ t with callers := t.callers ++ [op.place] } : Simple α).latest =
              op.place := by
            simp [Simple.latest]
          rw [latest, List.append_nil]
          exact begins op (t.callers ++ [op.place]) now
      | @caller label i c c' v _ hl hc hm =>
          have moves : ∀ r, c ≠ .done r := by
            rintro r rfl
            cases hm
          obtain ⟨last, length⟩ := before.latest_moves hc moves
          rw [last] at now
          have lt := (List.getElem?_eq_some_iff.1 hc).1
          have latest : ({ v with callers := t.callers.set i c' } : Simple α).latest = c' :=
            latest_eq (List.getElem?_set_self lt) (by rw [List.length_set]; omega)
          have none : operations [label] = [] := by
            cases label with
            | begins op => cases hl
            | _ => rfl
          rw [latest, none, List.append_nil]
          exact caller _ ok hm now

end Telemetry.Simple
