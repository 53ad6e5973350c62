import Telemetry.Ring.Basic

set_option autoImplicit false

/-! # The slot protocol

Any number of threads work on one ring. A thread that stores a record reads the tail and the
stamp of its slot. If the stamp equals the tail, it claims the position by moving the tail, then
writes the record and publishes it by the stamp `tail + 1`. If the slot still holds a record of
the lap before, the ring may be full, which the head decides. A thread that takes a record does
the same at the head, and frees the slot for the next lap.

`step` is one atomic step of one thread: a read or a write of one word or one slot. A claim is a
compare-and-exchange that may also fail for no reason. A thread that finds a slot in transit
starts again. -/

namespace Telemetry.Ring

/-- Where a thread is in an operation on a ring. -/
inductive Place (α : Type) where
  /-- Storing: about to read the tail. -/
  | pushTail (a : α)
  /-- Storing: about to read the stamp of the slot at `tail`. -/
  | pushStamp (a : α) (tail : UInt64)
  /-- Storing: about to move the tail from `tail`. -/
  | pushClaim (a : α) (tail : UInt64)
  /-- Storing: owns the slot at `tail`, about to write the record. -/
  | pushWrite (a : α) (tail : UInt64)
  /-- Storing: the record is written, about to publish it. -/
  | pushPublish (tail : UInt64)
  /-- Storing: the slot at `tail` holds an older record, about to read the head. -/
  | pushHead (a : α) (tail : UInt64)
  /-- The record is stored. -/
  | stored
  /-- The ring was full. -/
  | refused (a : α)
  /-- Taking: about to read the head. -/
  | popHead
  /-- Taking: about to read the stamp of the slot at `head`. -/
  | popStamp (head : UInt64)
  /-- Taking: about to move the head from `head`. -/
  | popClaim (head : UInt64)
  /-- Taking: owns the slot at `head`, about to read the record. -/
  | popRead (head : UInt64)
  /-- Taking: the record is read, about to free the slot. -/
  | popFree (head : UInt64) (a : Option α)
  /-- Taking: the slot at `head` is empty, about to read the tail. -/
  | popTail (head : UInt64)
  /-- The record that was taken. -/
  | taken (a : Option α)
  /-- The ring was empty. -/
  | nothing
  /-- Counting: about to read the tail. -/
  | lengthTail
  /-- Counting: about to read the head. -/
  | lengthHead (tail : UInt64)
  /-- Counting: about to read the tail again. -/
  | lengthAgain (tail head : UInt64)
  /-- The number of records. -/
  | counted (n : UInt64)
  /-- Testing for emptiness: about to read the head. -/
  | emptyHead
  /-- Testing for emptiness: about to read the tail. -/
  | emptyTail (head : UInt64)
  /-- Testing for fullness: about to read the tail. -/
  | fullTail
  /-- Testing for fullness: about to read the head. -/
  | fullHead (tail : UInt64)
  /-- The answer of a test. -/
  | answered (yes : Bool)
deriving DecidableEq

variable {α : Type}

/-- Whether the operation has ended. -/
def Place.isDone : Place α → Bool
  | .stored | .refused _ | .taken _ | .nothing | .counted _ | .answered _ => true
  | _ => false

/-- One atomic step of a thread. `fails` lets a claim fail although the position is free. -/
def step (r : Ring α) (fails : Bool) : Place α → Ring α × Place α
  | .pushTail a => (r, .pushStamp a r.tail)
  | .pushStamp a tail =>
    let stamp := r.stampAt tail
    if tail = stamp then (r, .pushClaim a tail)
    else if stamp + r.config.oneLap = tail + 1 then (r, .pushHead a tail)
    else (r, .pushTail a)
  | .pushClaim a tail =>
    if r.tail = tail ∧ !fails then ({ r with tail := r.next tail }, .pushWrite a tail)
    else (r, .pushStamp a r.tail)
  | .pushWrite a tail => (r.setValue tail (some a), .pushPublish tail)
  | .pushPublish tail => (r.setStamp tail (tail + 1), .stored)
  | .pushHead a tail => if r.lapAhead r.head tail then (r, .refused a) else (r, .pushTail a)
  | .popHead => (r, .popStamp r.head)
  | .popStamp head =>
    let stamp := r.stampAt head
    if head + 1 = stamp then (r, .popClaim head)
    else if stamp = head then (r, .popTail head)
    else (r, .popHead)
  | .popClaim head =>
    if r.head = head ∧ !fails then ({ r with head := r.next head }, .popRead head)
    else (r, .popStamp r.head)
  | .popRead head =>
    let a := r.valueAt head
    (r.setValue head none, .popFree head a)
  | .popFree head a => (r.setStamp head (head + r.config.oneLap), .taken a)
  | .popTail head => if r.tail = head then (r, .nothing) else (r, .popHead)
  | .lengthTail => (r, .lengthHead r.tail)
  | .lengthHead tail => (r, .lengthAgain tail r.head)
  | .lengthAgain tail head =>
    if r.tail = tail then (r, .counted (r.distance head tail)) else (r, .lengthTail)
  | .emptyHead => (r, .emptyTail r.head)
  | .emptyTail head => (r, .answered (r.tail == head))
  | .fullTail => (r, .fullHead r.tail)
  | .fullHead tail => (r, .answered (r.lapAhead r.head tail))
  | .stored => (r, .stored)
  | .refused a => (r, .refused a)
  | .taken a => (r, .taken a)
  | .nothing => (r, .nothing)
  | .counted n => (r, .counted n)
  | .answered yes => (r, .answered yes)

/-- A ring with its threads, by number. -/
structure Shared (α : Type) where
  ring : Ring α
  threads : List (Place α)

/-- Thread `t` takes a step. -/
def Shared.step (s : Shared α) (t : Nat) (fails : Bool) : Shared α :=
  match s.threads[t]? with
  | none => s
  | some place =>
    let (ring, place) := s.ring.step fails place
    ⟨ring, s.threads.set t place⟩

/-- Runs one operation with no other thread on the ring, for at most `steps` steps. -/
def solo : Nat → Ring α → Place α → Ring α × Place α
  | 0, r, place => (r, place)
  | steps + 1, r, place =>
    let (r, place) := r.step false place
    solo steps r place

end Telemetry.Ring
