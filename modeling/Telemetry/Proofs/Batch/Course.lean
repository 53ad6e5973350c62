import Telemetry.Proofs.Batch.Run

set_option autoImplicit false

/-! # Calls from their beginning on

A call begins at the place of its operation and walks on from there, while other threads change the
state around it. What holds where a call begins, is kept by its own steps and survives the steps of
all others holds of the call as long as the run goes on. -/

namespace Telemetry.Batch

variable {α : Type}

/-- Every caller of a run has begun an operation. -/
theorem Run.exists_operation {name : String} {config : BatchConfig} {s : Batch α}
    {labels : List (Label α)} {notes : List (Note α)}
    (run : Run (start name config) labels notes s) {i : Nat} {c : Caller α}
    (hc : s.callers[i]? = some c) : ∃ op, (operations labels)[i]? = some op := by
  have length := run.callers_length
  rw [show (start name config : Batch α).callers.length = 0 from rfl, Nat.zero_add] at length
  exact ⟨_, List.getElem?_eq_getElem (length ▸ (List.getElem?_eq_some_iff.1 hc).1)⟩

/-- What is true of every call that begins in a run: `p op s c` speaks of a call for `op` that is at
`c` in the state `s`. The states of the run may be known to be sound. -/
theorem Run.follows_calls {q : Batch α → Prop} {p : Operation α → Batch α → Caller α → Prop}
    {s t : Batch α} {labels : List (Label α)} {notes : List (Note α)} (run : Run s labels notes t)
    (states : ∀ {l n u}, Run s l n u → q u)
    (begins : ∀ {u : Batch α} (op : Operation α), q u →
      p op { u with callers := u.callers ++ [op.place] } op.place)
    (moves : ∀ {u v : Batch α} {op : Operation α} {c c' : Caller α} {i : Nat}
      {new : List (Note α)}, q u → u.callers[i]? = some c → p op u c → c.Moves u v c' new →
      p op { v with callers := u.callers.set i c' } c')
    (others : ∀ {u v : Batch α} {label : Label α} {new : List (Note α)} {op : Operation α}
      {c : Caller α}, q u → u.Moves label v new → p op u c → p op v c ∧ p op v c.notify)
    {i : Nat} {op : Operation α} {c : Caller α} (hop : (operations labels)[i]? = some op)
    (hc : t.callers[s.callers.length + i]? = some c) : p op t c := by
  induction run generalizing i op c with
  | nil => simp [operations] at hop
  | @snoc t u labels notes new label run step ih =>
      have hm := moves_of_step step
      have length := run.callers_length
      rw [operations_append] at hop
      rcases hm.caller_from hc with ⟨op', rfl, at_end, rfl, rfl⟩ | ⟨d, hd, from_d⟩
      · -- The call begins in this step, so its number is that of the last operation.
        obtain rfl : i = (operations labels).length := by omega
        have same : op' = op := by
          rw [List.getElem?_append_right (Nat.le_refl _), Nat.sub_self] at hop
          exact Option.some.inj hop
        exact same ▸ begins op' (states run)
      · have lt : s.callers.length + i < t.callers.length := (List.getElem?_eq_some_iff.1 hd).1
        rw [List.getElem?_append_left (by omega)] at hop
        have before := ih hop hd
        rcases from_d with ⟨-, v, hv, rfl⟩ | ⟨-, rfl | rfl⟩
        · exact moves (states run) hd before hv
        · exact (others (states run) hm before).1
        · exact (others (states run) hm before).2

end Telemetry.Batch
