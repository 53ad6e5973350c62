import Telemetry.Queue

set_option autoImplicit false

/-! # Operations of a bounded queue, by its records

What `push?` and `pop?` answer is decided by the list of records alone; later proofs use these
equations and never open the operations. -/

namespace Telemetry.Queue

variable {α : Type} {q q' : Queue α} {a : α}

theorem isFull_iff : q.isFull = true ↔ q.capacity ≤ q.length := by
  simp [isFull]

theorem push?_of_lt (h : q.length < q.capacity) (a : α) :
    q.push? a = some { q with items := q.items ++ [a] } := by
  rw [push?, if_neg]
  simpa [isFull] using h

theorem push?_of_le (h : q.capacity ≤ q.length) (a : α) : q.push? a = none := by
  rw [push?, if_pos]
  simpa [isFull] using h

/-- A queue accepts a record exactly if there is room, and then at its end. -/
theorem push?_eq_some_iff :
    q.push? a = some q' ↔ q.length < q.capacity ∧ q' = ⟨q.capacity, q.items ++ [a]⟩ := by
  rcases Nat.lt_or_ge q.length q.capacity with h | h
  · simp [push?_of_lt h, h, eq_comm]
  · simp [push?_of_le h, Nat.not_lt.2 h]

theorem push?_eq_none_iff : q.push? a = none ↔ q.capacity ≤ q.length := by
  rcases Nat.lt_or_ge q.length q.capacity with h | h
  · simp [push?_of_lt h, Nat.not_le.2 h]
  · simp [push?_of_le h, h]

/-- A queue gives away the record at its front. -/
theorem pop?_eq_some_iff :
    q.pop? = some (a, q') ↔ q.items = a :: q'.items ∧ q'.capacity = q.capacity := by
  obtain ⟨capacity, items⟩ := q
  obtain ⟨capacity', items'⟩ := q'
  cases items with
  | nil => simp [pop?]
  | cons b rest =>
      simp only [pop?, Option.some.injEq, Prod.mk.injEq, Queue.mk.injEq, List.cons.injEq]
      constructor
      · rintro ⟨rfl, rfl, rfl⟩
        exact ⟨⟨rfl, rfl⟩, rfl⟩
      · rintro ⟨⟨rfl, rfl⟩, rfl⟩
        exact ⟨rfl, rfl, rfl⟩

theorem pop?_eq_none_iff : q.pop? = none ↔ q.items = [] := by
  obtain ⟨capacity, items⟩ := q
  cases items <;> simp [pop?]

/-! ## Lengths -/

theorem length_of_cons {rest : List α} (h : q.items = a :: rest) : q.length = rest.length + 1 := by
  rw [length, h, List.length_cons]

theorem length_of_nil (h : q.items = []) : q.length = 0 := by
  rw [length, h, List.length_nil]

theorem length_rest_le {rest : List α} (h : q.items = a :: rest) : rest.length ≤ q.length := by
  rw [length_of_cons h]
  exact Nat.le_succ _

/-- What is not longer than an empty queue is empty. -/
theorem items_eq_nil_of_length_le (h : q.items = []) (shorter : q'.length ≤ q.length) :
    q'.items = [] := by
  rw [length_of_nil h] at shorter
  exact List.eq_nil_of_length_eq_zero (Nat.le_zero.1 shorter)

end Telemetry.Queue
