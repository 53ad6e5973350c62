import Telemetry.Proofs.Batch.Received
import Telemetry.Proofs.Batch.Termination

set_option autoImplicit false

/-! # How far the numbers of requests to flush go

The numbers of requests to flush are natural numbers in a state, and words of 64 bits in a machine.
A call registers its request once, so the numbers go no further than the calls. In a run with fewer
than 2^64 calls that flush the words are the numbers, and comparing words is comparing numbers. -/

namespace Telemetry.Batch

variable {α : Type}

/-! ## Calls that flush -/

/-- Whether a call asks to flush. -/
def Operation.isFlush : Operation α → Bool
  | .flush _ => true
  | _ => false

/-- How many calls that flush have begun. -/
def flushCount (labels : List (Label α)) : Nat :=
  (operations labels).countP Operation.isFlush

/-- The requests to flush that a caller may still register. -/
def Caller.unregistered : Caller α → Nat
  | .flushing _ | .requestingFlush _ => 1
  | _ => 0

theorem Caller.unregistered_notify (c : Caller α) : c.notify.unregistered = c.unregistered := by
  cases c <;> rfl

/-- A call registers its request to flush at most once. -/
theorem Caller.Moves.registers {s t : Batch α} {c c' : Caller α} {notes : List (Note α)}
    (h : c.Moves s t c' notes) :
    t.control.flushRequested + c'.unregistered ≤ s.control.flushRequested + c.unregistered := by
  cases h with
  | sweeps hw | endsSweep hw =>
      rw [hw.frame]
      exact Nat.le_refl _
  | flushesLate | flushRefused => exact Nat.le_succ _
  | requestsFlush _ look | looksAtFlush look => cases look <;> exact Nat.le_refl _
  | closesAgain _ look | closes _ look | looksAtShutdown look =>
      cases look <;> exact Nat.le_refl _
  | _ => exact Nat.le_refl _

/-! ## Numbers of a state -/

/-- The requests to flush that were registered, and those that callers may still register, come from
`n` calls. -/
def RegisteredWithin (n : Nat) (s : Batch α) : Prop :=
  s.control.flushRequested + total Caller.unregistered s.callers ≤ n

theorem RegisteredWithin.caller {n : Nat} {s t : Batch α} {c c' : Caller α} {i : Nat}
    {notes : List (Note α)} (h : RegisteredWithin n s) (hc : s.callers[i]? = some c)
    (hm : c.Moves s t c' notes) :
    RegisteredWithin n { t with callers := t.callers.set i c' } := by
  obtain ⟨-, -, -, callers⟩ := hm.frame
  have registers := hm.registers
  have all := total_set Caller.unregistered hc c'
  unfold RegisteredWithin at h ⊢
  rw [callers]
  show t.control.flushRequested + total Caller.unregistered (s.callers.set i c') ≤ n
  omega

theorem RegisteredWithin.worker {n : Nat} {s t : Batch α} {w : Worker α} {notes : List (Note α)}
    (h : RegisteredWithin n s) (hm : s.worker.Moves s t w notes) :
    RegisteredWithin n { t with worker := w } := by
  obtain ⟨-, -, callers⟩ := hm.frame
  have same : total Caller.unregistered t.callers = total Caller.unregistered s.callers := by
    rcases callers with same | woken
    · rw [same]
    · rw [woken, total_notify _ Caller.unregistered_notify]
  show t.control.flushRequested + total Caller.unregistered t.callers ≤ n
  rw [hm.flushControl.1, same]
  exact h

theorem RegisteredWithin.begins {n : Nat} {s : Batch α} (h : RegisteredWithin n s)
    (op : Operation α) :
    RegisteredWithin (n + if op.isFlush then 1 else 0)
      { s with callers := s.callers ++ [op.place] } := by
  have place : op.place.unregistered = if op.isFlush then 1 else 0 := by cases op <;> rfl
  show s.control.flushRequested + total Caller.unregistered (s.callers ++ [op.place]) ≤ _
  rw [total_snoc, place, ← Nat.add_assoc]
  exact Nat.add_le_add_right h _

theorem Run.registeredWithin {name : String} {config : BatchConfig} {s : Batch α}
    {labels : List (Label α)} {notes : List (Note α)}
    (run : Run (start name config) labels notes s) : RegisteredWithin (flushCount labels) s := by
  induction run with
  | nil => exact Nat.le_refl 0
  | @snoc _ _ labels _ _ label _ step ih =>
      cases moves_of_step step with
      | begins op =>
          rw [flushCount, countP_operations_snoc_begins]
          exact ih.begins op
      | caller hc hm =>
          rw [flushCount, countP_operations_snoc _ (by intro op; exact nofun)]
          exact ih.caller hc hm
      | worker _ other hm =>
          rw [flushCount, countP_operations_snoc _ other]
          exact ih.worker hm

/-- A number of a request to flush in a state: the latest one, the one up to which there are
answers, the one that the worker serves, or one that a caller waits for. -/
inductive FlushNumber (s : Batch α) : Nat → Prop where
  | requested : FlushNumber s s.control.flushRequested
  | completed : FlushNumber s s.control.flushCompleted
  | served {number : Nat} : s.worker.task? = some (.flush number) → FlushNumber s number
  | awaited {number : Nat} {c : Caller α} :
      c ∈ s.callers → c.number? = some number → FlushNumber s number

/-- **The numbers of requests to flush go no further than the calls that flush.** -/
theorem FlushNumber.le_flushCount {name : String} {config : BatchConfig} {s : Batch α}
    {labels : List (Label α)} {notes : List (Note α)} {number : Nat}
    (run : Run (start name config) labels notes s) (here : FlushNumber s number) :
    number ≤ flushCount labels := by
  have latest : s.control.flushRequested ≤ flushCount labels :=
    (Nat.le_add_right ..).trans run.registeredWithin
  cases here with
  | requested => exact latest
  | completed => exact run.numbered.answered.trans latest
  | served task => exact (run.numbered.served number task).trans latest
  | awaited there waits => exact (run.awake.asked _ there number waits).trans latest

/-- In a run with fewer than 2^64 calls that flush, the words of two numbers compare as the numbers
do. -/
theorem FlushNumber.words_le_iff {name : String} {config : BatchConfig} {s : Batch α}
    {labels : List (Label α)} {notes : List (Note α)} {m n : Nat}
    (run : Run (start name config) labels notes s) (few : flushCount labels < 2 ^ 64)
    (hm : FlushNumber s m) (hn : FlushNumber s n) : m.toUInt64 ≤ n.toUInt64 ↔ m ≤ n := by
  have small : m < 2 ^ 64 := (hm.le_flushCount run).trans_lt few
  have small' : n < 2 ^ 64 := (hn.le_flushCount run).trans_lt few
  rw [UInt64.le_iff_toNat_le, Nat.toUInt64_eq, Nat.toUInt64_eq, UInt64.toNat_ofNat_of_lt' small,
    UInt64.toNat_ofNat_of_lt' small']

end Telemetry.Batch
