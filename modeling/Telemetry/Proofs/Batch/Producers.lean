import Mathlib.Data.List.Nodup
import Telemetry.Proofs.Batch.History

set_option autoImplicit false

/-! # Which call brought which record

Records may be equal, calls are not: the history names every accepted record by the call that
brought it. A call brings the record it was given, at most once and before it returns. So the
queue accepts the records of one producer, who makes one call after the other, in that order. -/

namespace Telemetry.Batch

variable {α : Type}

/-- The record that a caller may still put into the queue. -/
def Caller.carried? : Caller α → Option α
  | .receiving a | .offering a | .evicting a => some a
  | .overflowing _ next | .warning _ next | .discarding _ next => next
  | _ => none

@[simp] theorem Caller.carried?_notify (c : Caller α) : c.notify.carried? = c.carried? := by
  cases c <;> rfl

theorem Operation.eq_receive_of_carried {op : Operation α} {a : α}
    (h : op.place.carried? = some a) : op = .receive a := by
  cases op with
  | receive b => cases h; rfl
  | _ => cases h

/-- A caller carries its record along or no longer has it. -/
theorem Caller.Moves.carried? {s t : Batch α} {c c' : Caller α} {notes : List (Note α)}
    (h : c.Moves s t c' notes) : c'.carried? = c.carried? ∨ c'.carried? = none := by
  cases h with
  | enters | makesRoom | evicts | retries | countsOverflow | warns | discardsOldest =>
      exact .inl rfl
  | requestsFlush _ look | looksAtFlush look => cases look <;> exact .inr rfl
  | closesAgain _ look | closes _ look | looksAtShutdown look => cases look <;> exact .inr rfl
  | _ => exact .inr rfl

/-! ## The calls and their records -/

theorem operations_snoc {labels : List (Label α)} {i : Nat} {op : Operation α}
    (h : (operations labels)[i]? = some op) (label : Label α) :
    (operations (labels ++ [label]))[i]? = some op := by
  rw [operations_append, List.getElem?_append_left (List.getElem?_eq_some_iff.1 h).1]
  exact h

/-- Which calls the accepted records and those still to be queued come from. -/
structure Brought (labels : List (Label α)) (h : History α) (s : Batch α) : Prop where
  count : s.callers.length = (operations labels).length
  carried : ∀ (i : Nat) (c : Caller α) (a : α), s.callers[i]? = some c →
    c.carried? = some a → (operations labels)[i]? = some (.receive a)
  own : ∀ x ∈ h.accepted, (operations labels)[x.1]? = some (.receive x.2)
  once : ∀ x ∈ h.accepted, ∀ c : Caller α, s.callers[x.1]? = some c → c.carried? = none
  nodup : (h.accepted.map Prod.fst).Nodup

theorem brought_start (name : String) (config : BatchConfig) :
    Brought [] .empty (start name config : Batch α) where
  count := rfl
  carried := nofun
  own := nofun
  once := nofun
  nodup := List.nodup_nil

theorem Moves.callers_count {s u : Batch α} {label : Label α} {notes : List (Note α)}
    (h : s.Moves label u notes) {labels : List (Label α)}
    (count : s.callers.length = (operations labels).length) :
    u.callers.length = (operations (labels ++ [label])).length := by
  rw [operations_append, List.length_append, ← count]
  exact h.callers_length

theorem Brought.carried_step {labels : List (Label α)} {h : History α} {s u : Batch α}
    {label : Label α} {notes : List (Note α)} (brought : Brought labels h s)
    (hm : s.Moves label u notes) {i : Nat} {c' : Caller α} {a : α} (hc' : u.callers[i]? = some c')
    (ha : c'.carried? = some a) :
    (operations (labels ++ [label]))[i]? = some (.receive a) := by
  rcases hm.caller_from hc' with ⟨op, rfl, rfl, rfl, -⟩ | ⟨c, hc, from_c⟩
  · obtain rfl := Operation.eq_receive_of_carried ha
    rw [operations_append, brought.count, List.getElem?_append_right (Nat.le_refl _), Nat.sub_self]
    rfl
  · have before : c.carried? = some a := by
      rcases from_c with ⟨-, t, hm, -⟩ | ⟨-, rfl | rfl⟩
      · rcases hm.carried? with same | none
        · rw [← same, ha]
        · rw [ha] at none
          cases none
      · exact ha
      · rwa [Caller.carried?_notify] at ha
    exact operations_snoc (brought.carried i c a hc before) label

/-- A call whose record was accepted carries none afterwards. -/
theorem Brought.once_step {labels : List (Label α)} {h : History α} {s u : Batch α}
    {label : Label α} {notes : List (Note α)} (brought : Brought labels h s)
    (hm : s.Moves label u notes) {x : Nat × α} (hx : x ∈ h.accepted) {c' : Caller α}
    (hc' : u.callers[x.1]? = some c') : c'.carried? = none := by
  rcases hm.caller_from hc' with ⟨op, -, fresh, -⟩ | ⟨c, hc, from_c⟩
  · have lt := (List.getElem?_eq_some_iff.1 (brought.own x hx)).1
    rw [fresh, brought.count] at lt
    exact absurd lt (Nat.lt_irrefl _)
  · have before := brought.once x hx c hc
    rcases from_c with ⟨-, t, hm, -⟩ | ⟨-, rfl | rfl⟩
    · rcases hm.carried? with same | none
      · rw [same, before]
      · exact none
    · exact before
    · rwa [Caller.carried?_notify]

theorem Brought.step {labels : List (Label α)} {h : History α} {s u : Batch α}
    {label : Label α} {notes : List (Note α)} (brought : Brought labels h s)
    (hm : s.Moves label u notes) :
    Brought (labels ++ [label]) (h.followedBy (s.record label u)) u := by
  -- A step that accepts nothing keeps what is said about the accepted records.
  have keep {h' : History α} (same : h'.accepted = h.accepted) :
      Brought (labels ++ [label]) h' u := by
    constructor
    case count => exact hm.callers_count brought.count
    case carried => exact fun i c a hc ha => brought.carried_step hm hc ha
    case own => exact fun x hx => operations_snoc (brought.own x (same ▸ hx)) label
    case once => exact fun x hx c hc => brought.once_step hm (same ▸ hx) hc
    case nodup => exact same ▸ brought.nodup
  have touch := hm.touches h
  generalize h.followedBy (s.record label u) = h' at touch ⊢
  cases touch with
  | keeps => exact keep rfl
  | evicts => exact keep rfl
  | batches => exact keep rfl
  | discards => exact keep rfl
  | @accepts i a hl hc callers =>
      have rest : Brought (labels ++ [label]) h u := keep rfl
      have mine := brought.carried i _ a hc rfl
      -- The call still carried its record, so none of its records was accepted before.
      have fresh : ∀ x ∈ h.accepted, x.1 ≠ i := by
        rintro x hx rfl
        have none := brought.once x hx _ hc
        cases none
      refine ⟨rest.count, rest.carried, ?own, ?once, ?nodup⟩
      case own =>
        intro x hx
        rcases List.mem_append.1 hx with old | new
        · exact rest.own x old
        · obtain rfl := List.mem_singleton.1 new
          exact operations_snoc mine label
      case once =>
        intro x hx c hc'
        rcases List.mem_append.1 hx with old | new
        · exact rest.once x old c hc'
        · obtain rfl := List.mem_singleton.1 new
          rw [callers, List.getElem?_set_self (List.getElem?_eq_some_iff.1 hc).1] at hc'
          cases hc'
          rfl
      case nodup =>
        show ((h.accepted ++ [(i, a)]).map Prod.fst).Nodup
        rw [List.map_append, List.nodup_append]
        refine ⟨rest.nodup, List.nodup_singleton i, ?_⟩
        intro j hj k hk
        obtain ⟨x, hx, rfl⟩ := List.mem_map.1 hj
        obtain rfl := List.mem_singleton.1 hk
        exact fresh x hx

theorem Run.brought {name : String} {config : BatchConfig} {s : Batch α}
    {labels : List (Label α)} {notes : List (Note α)}
    (run : Run (start name config) labels notes s) :
    Brought labels ((start name config).history labels) s := by
  induction run with
  | nil => exact brought_start name config
  | snoc run step ih =>
      rw [history_snoc run step]
      exact ih.step (moves_of_step step)

/-! ## The order of calls -/

/-- A call that has returned brings nothing any more. -/
theorem Run.not_accepted_of_done {s t : Batch α} {labels : List (Label α)}
    {notes : List (Note α)} (run : Run s labels notes t) {i : Nat} {r : Option ProcessorResult}
    (returned : s.callers[i]? = some (.done r)) :
    ∀ x ∈ (s.history labels).accepted, x.1 ≠ i := by
  induction run with
  | nil => nofun
  | @snoc t u labels notes new label run step ih =>
      rw [history_snoc run step]
      have touch := (moves_of_step step).touches (s.history labels)
      generalize (s.history labels).followedBy (t.record label u) = h' at touch ⊢
      cases touch with
      | keeps => exact ih
      | evicts => exact ih
      | batches => exact ih
      | discards => exact ih
      | @accepts j a _ hc =>
          intro x hx
          rcases List.mem_append.1 hx with old | new
          · exact ih x old
          · rintro rfl
            obtain rfl := List.mem_singleton.1 new
            rw [run.done returned] at hc
            cases hc

/-- What a call brought that has returned was accepted before the call returned. -/
theorem Run.accepted_before {name : String} {config : BatchConfig} {s t : Batch α}
    {l₁ l₂ : List (Label α)} {n₁ n₂ : List (Note α)} (run₁ : Run (start name config) l₁ n₁ s)
    (run₂ : Run s l₂ n₂ t) {i k : Nat} {a : α} {r : Option ProcessorResult}
    (returned : s.callers[i]? = some (.done r))
    (accepted : ((start name config).history (l₁ ++ l₂)).accepted[k]? = some (i, a)) :
    k < ((start name config).history l₁).accepted.length := by
  rw [history_append run₁] at accepted
  by_contra after
  rw [History.followedBy, List.getElem?_append_right (Nat.le_of_not_lt after)] at accepted
  exact run₂.not_accepted_of_done returned _ (List.mem_of_getElem? accepted) rfl

/-- If one call has returned before another one begins, the queue accepts what the first one
brings before what the second one brings. -/
theorem Run.accepted_in_order {name : String} {config : BatchConfig} {s t : Batch α}
    {l₁ l₂ : List (Label α)} {n₁ n₂ : List (Note α)} (run₁ : Run (start name config) l₁ n₁ s)
    (run₂ : Run s l₂ n₂ t) {i j k l : Nat} {a b : α} {r : Option ProcessorResult}
    (returned : s.callers[i]? = some (.done r)) (later : s.callers.length ≤ j)
    (first : ((start name config).history (l₁ ++ l₂)).accepted[k]? = some (i, a))
    (second : ((start name config).history (l₁ ++ l₂)).accepted[l]? = some (j, b)) : k < l := by
  have before := run₁.accepted_before run₂ returned first
  -- What is accepted before the state `s` was brought by a call that had begun by then.
  by_contra notAfter
  have lt : l < ((start name config).history l₁).accepted.length := by omega
  rw [history_append run₁, History.followedBy, List.getElem?_append_left lt] at second
  have brought := run₁.brought
  have bound := (List.getElem?_eq_some_iff.1
    (brought.own _ (List.mem_of_getElem? second))).1
  rw [← brought.count] at bound
  exact absurd later (Nat.not_le.2 bound)

end Telemetry.Batch
