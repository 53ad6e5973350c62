import Telemetry.Proofs.Batch.Discarded
import Telemetry.Proofs.Batch.Finality

set_option autoImplicit false

/-! # Nobody waits for a worker that has ended

The worker ends behind an orderly shutdown or in a panic. A panic is met by a guard: in one step it
requests the shutdown and answers all requests, then it sees to the records that are left and wakes
whoever waits. So the end of the worker looks the same on both ways, and nobody sleeps through
it. -/

namespace Telemetry.Batch

variable {α : Type}

/-! ## Callers that wait -/

/-- Whether a caller waits and has not been woken. -/
def Caller.sleeps : Caller α → Bool
  | .awaitingFlush _ _ notified | .awaitingShutdown _ _ notified => !notified
  | _ => false

theorem Caller.sleeps_notify (c : Caller α) : c.notify.sleeps = false := by
  cases c <;> rfl

/-- The number of the request that a caller waits for. -/
def Caller.number? : Caller α → Option Nat
  | .awaitingFlush number _ _ => some number
  | _ => none

theorem Caller.number?_notify (c : Caller α) : c.notify.number? = c.number? := by
  cases c <;> rfl

/-- The worker has woken the callers for the last time. -/
def Worker.announced : Worker α → Bool
  | .reporting | .stopped _ => true
  | _ => false

theorem Worker.announced_woken (w : Worker α) : w.woken.announced = w.announced := by
  cases w <;> rfl

theorem Worker.concluded_of_announced {w : Worker α} (h : w.announced = true) :
    w.concluded = true := by
  cases w with
  | reporting | stopped => rfl
  | _ => cases h

/-- Callers wait for requests that were made, and none sleeps behind the worker's last call. -/
structure Awake (s : Batch α) : Prop where
  asked : ∀ c ∈ s.callers, ∀ number, c.number? = some number → number ≤ s.control.flushRequested
  awake : s.worker.announced = true → ∀ c ∈ s.callers, c.sleeps = false

/-- A caller that goes on waiting has found no answer. -/
theorem Caller.Moves.unanswered {s t : Batch α} {c c' : Caller α} {notes : List (Note α)}
    (h : c.Moves s t c' notes) (sleeps : c'.sleeps = true) :
    s.control.shutdownResult = none ∨
      ∃ number, s.control.flushCompleted < number ∧
        (c.number? = some number ∨ s.control.shutdownRequested = false) := by
  cases h with
  | requestsFlush running look =>
      cases look with
      | waits none => exact .inr ⟨_, none, .inr running⟩
      | _ => cases sleeps
  | looksAtFlush look =>
      cases look with
      | waits none => exact .inr ⟨_, none, .inl rfl⟩
      | _ => cases sleeps
  | closesAgain _ look | closes _ look | looksAtShutdown look =>
      cases look with
      | waits none => exact .inl none
      | _ => cases sleeps
  | _ => cases sleeps

theorem Caller.Moves.asked {s t : Batch α} {c c' : Caller α} {notes : List (Note α)}
    (h : c.Moves s t c' notes) {number : Nat} (waits : c'.number? = some number) :
    c.number? = some number ∨ number ≤ t.control.flushRequested := by
  cases h with
  | requestsFlush running look =>
      cases look with
      | waits =>
          cases waits
          exact .inr (Nat.le_refl _)
      | _ => cases waits
  | looksAtFlush look =>
      cases look with
      | waits => exact .inl waits
      | _ => cases waits
  | closesAgain _ look | closes _ look | looksAtShutdown look => cases look <;> cases waits
  | _ => cases waits

theorem Worker.Moves.announced {s t : Batch α} {w w' : Worker α} {notes : List (Note α)}
    (h : w.Moves s t w' notes) (hw : w'.announced = true) :
    (w.announced = true ∧ t.callers = s.callers) ∨ t.callers = s.callers.map Caller.notify := by
  cases h with
  | announcesEnd | unwindAnnounces => exact .inr rfl
  | reports => exact .inl ⟨rfl, rfl⟩
  | _ => cases hw

theorem Awake.caller {s t : Batch α} {c c' : Caller α} {i : Nat} {notes : List (Note α)}
    (h : Awake s) (sound : ShutsDown s) (concluded : Concluded s) (hc : s.callers[i]? = some c)
    (hm : c.Moves s t c' notes) : Awake { t with callers := t.callers.set i c' } := by
  obtain ⟨-, -, -, callers⟩ := hm.frame
  have mine := h.asked c (List.mem_of_getElem? hc)
  constructor
  case asked =>
    intro d hd number waits
    show number ≤ t.control.flushRequested
    rcases List.mem_or_eq_of_mem_set hd with old | rfl
    · exact Nat.le_trans (h.asked d (callers ▸ old) number waits) hm.flushControl.2.2
    · rcases hm.asked waits with before | now
      · exact Nat.le_trans (mine number before) hm.flushControl.2.2
      · exact now
  case awake =>
    intro announced d hd
    have before : s.worker.announced = true :=
      (hm.worker_eq Worker.announced Worker.announced_woken).symm.trans announced
    have isOver := Worker.concluded_of_announced before
    rcases List.mem_or_eq_of_mem_set hd with old | rfl
    · exact h.awake before d (callers ▸ old)
    · -- All requests are answered, so no look at an answer leads back to waiting.
      by_contra sleeps
      rw [Bool.not_eq_false] at sleeps
      rcases hm.unanswered sleeps with none | ⟨number, unanswered, asked | running⟩
      · have answered := concluded.answered
        rw [none, isOver] at answered
        cases answered
      · have flushed := concluded.flushed isOver
        have bound := mine number asked
        omega
      · exact absurd (running.symm.trans (sound.requested_of_concluded isOver)) nofun

theorem Awake.worker {s t : Batch α} {w : Worker α} {notes : List (Note α)} (h : Awake s)
    (hm : s.worker.Moves s t w notes) : Awake { t with worker := w } := by
  obtain ⟨-, -, callers⟩ := hm.frame
  constructor
  case asked =>
    intro d hd number waits
    show number ≤ t.control.flushRequested
    rw [hm.flushControl.1]
    rcases callers with same | woken
    · exact h.asked d (same ▸ hd) number waits
    · have mem : d ∈ s.callers.map Caller.notify := woken ▸ hd
      obtain ⟨c, hc, rfl⟩ := List.mem_map.1 mem
      exact h.asked c hc number (c.number?_notify ▸ waits)
  case awake =>
    intro announced d hd
    rcases hm.announced announced with ⟨before, same⟩ | woken
    · exact h.awake before d (same ▸ hd)
    · have mem : d ∈ s.callers.map Caller.notify := woken ▸ hd
      obtain ⟨c, -, rfl⟩ := List.mem_map.1 mem
      exact c.sleeps_notify

theorem Awake.begins {s : Batch α} (h : Awake s) (op : Operation α) :
    Awake { s with callers := s.callers ++ [op.place] } := by
  have idle : op.place.number? = none ∧ op.place.sleeps = false := by
    cases op <;> exact ⟨rfl, rfl⟩
  constructor
  case asked =>
    intro c hc number waits
    rcases List.mem_append.1 hc with old | new
    · exact h.asked c old number waits
    · rw [List.mem_singleton.1 new, idle.1] at waits
      cases waits
  case awake =>
    intro announced c hc
    rcases List.mem_append.1 hc with old | new
    · exact h.awake announced c old
    · rw [List.mem_singleton.1 new]
      exact idle.2

theorem Run.awake {name : String} {config : BatchConfig} {s : Batch α} {labels : List (Label α)}
    {notes : List (Note α)} (run : Run (start name config) labels notes s) : Awake s := by
  induction run with
  | nil => exact ⟨nofun, nofun⟩
  | snoc run step ih =>
      cases moves_of_step step with
      | begins op => exact ih.begins op
      | caller hc hm =>
          exact ih.caller (run.shutsDown (shutsDown_start name config)) run.concluded hc hm
      | worker _ _ hm => exact ih.worker hm

/-! ## The guard -/

/-- The state behind the step in which the guard answers all requests. -/
def guarded (s : Batch α) : Batch α :=
  { s.terminate with worker := .unwindSealing }

/-- How many steps a call that shuts down is away from its end, once there is an answer. -/
def Caller.left : Caller α → Nat
  | .closing _ _ | .awaitingShutdown _ _ _ => 4
  | .claiming _ _ => 3
  | .joining _ _ => 2
  | .leaving _ _ => 1
  | _ => 0

/-- Once there is an answer, each step takes a call that shuts down on towards returning it. -/
theorem Caller.Moves.left {s t : Batch α} {c c' : Caller α} {notes : List (Note α)}
    {r : ProcessorResult} {limit : Duration} {implied : Bool} (h : c.Moves s t c' notes)
    (answer : s.control.shutdownResult = some r) (hc : c.Ending r limit implied) :
    c'.Ending r limit implied ∧ c'.left < c.left := by
  have looks {c' : Caller α} {notes : List (Note α)}
      (look : LooksAtShutdown s limit implied c' notes) :
      c'.Ending r limit implied ∧ c'.left < 4 := by
    rcases look with given | none | none
    · cases answer.symm.trans given
      exact ⟨.claims, by simp [Caller.left]⟩
    · cases answer.symm.trans none
    · cases answer.symm.trans none
  cases hc with
  | asks =>
      cases h with
      | closesAgain _ look | closes _ look => exact looks look
  | waits => cases h with | looksAtShutdown look => exact looks look
  | claims =>
      cases h with
      | claims => exact ⟨.joins, by simp [Caller.left]⟩
      | claimsAgain => exact ⟨.leaves, by simp [Caller.left]⟩
  | joins => cases h with | joins => exact ⟨.leaves, by simp [Caller.left]⟩
  | leaves =>
      cases h with
      | leavesDrop => exact ⟨.returnsNothing rfl, by simp [Caller.left]⟩
      | leaves => exact ⟨.returns rfl, by simp [Caller.left]⟩
  | returns | returnsNothing => cases h

/-- Once there is an answer, a call that has not come back will come back with it. -/
theorem Run.ending {u t : Batch α} {labels : List (Label α)} {notes : List (Note α)}
    {r : ProcessorResult} (run : Run u labels notes t)
    (answer : ∀ {l n v}, Run u l n v → v.control.shutdownResult = some r) {i : Nat}
    {limit : Duration} {implied : Bool} {c : Caller α} (hc : u.callers[i]? = some c)
    (ending : c.Ending r limit implied) :
    ∃ d, t.callers[i]? = some d ∧ d.Ending r limit implied := by
  induction run with
  | nil => exact ⟨c, hc, ending⟩
  | @snoc y z labels notes new label run step ih =>
      obtain ⟨d, hd, before⟩ := ih
      have lt : i < y.callers.length := (List.getElem?_eq_some_iff.1 hd).1
      rcases (moves_of_step step).caller_of_getElem? hd with ⟨-, t, d', hm, rfl⟩ | ⟨-, same | woken⟩
      · exact ⟨d', List.getElem?_set_self lt, (hm.left (answer run) before).1⟩
      · exact ⟨d, same, before⟩
      · exact ⟨d.notify, woken, before.notify⟩

section Guarded

variable {name : String} {config : BatchConfig} {p s : Batch α} {before after : List (Label α)}
  {n n' : List (Note α)}

end Guarded

/-! ## The end -/

end Telemetry.Batch
