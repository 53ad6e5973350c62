set_option autoImplicit false

/-! # Bounded queues

A bounded queue is a list of records with a capacity. It is the meaning of a ring: what a ring's
atomic operations do to its records is what these functions do to the list. A full queue refuses
a record; under the policy that drops the oldest records, room is made at the front instead. -/

namespace Telemetry

/-- What happens to a record that is offered to a full queue. -/
inductive OverflowPolicy where
  /-- The new record is dropped and the queue stays as it is. -/
  | dropNewest
  /-- The oldest records are dropped to make room for the new one. -/
  | dropOldest
deriving DecidableEq, Inhabited

/-- The name of a policy. -/
def OverflowPolicy.name : OverflowPolicy → String
  | .dropNewest => "DropNewest"
  | .dropOldest => "DropOldest"

/-- A first-in, first-out queue of at most `capacity` records, the oldest one first. -/
structure Queue (α : Type) where
  capacity : Nat
  items : List α

namespace Queue

variable {α : Type}

/-- An empty queue. -/
def empty (capacity : Nat) : Queue α :=
  ⟨capacity, []⟩

/-- The number of records. -/
def length (q : Queue α) : Nat :=
  q.items.length

/-- Whether there is no room for another record. -/
def isFull (q : Queue α) : Bool :=
  q.capacity ≤ q.length

/-- Appends a record; `none` if the queue is full. -/
def push? (q : Queue α) (a : α) : Option (Queue α) :=
  if q.isFull then none else some { q with items := q.items ++ [a] }

/-- Takes the oldest record; `none` if there is none. -/
def pop? (q : Queue α) : Option (α × Queue α) :=
  match q.items with
  | [] => none
  | a :: rest => some (a, { q with items := rest })

/-- Takes at most `n` of the oldest records. -/
def take (q : Queue α) (n : Nat) : List α × Queue α :=
  (q.items.take n, { q with items := q.items.drop n })

/-- Appends a record; from a full queue the oldest one is dropped first and handed back. -/
def pushEvicting (q : Queue α) (a : α) : List α × Queue α :=
  if q.isFull then (q.items.take 1, { q with items := q.items.drop 1 ++ [a] })
  else ([], { q with items := q.items ++ [a] })

end Queue

end Telemetry
