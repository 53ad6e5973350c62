import Telemetry.Ring.Operations

set_option autoImplicit false

/-! # Producers and consumers

Any number of producers offer their records to one ring, and any number of consumers take records
out. An attempt to store a record and an attempt to take one are single steps, in any order. A
producer whose record is refused tries again, or offers it under the ring's policy and drops a
record: the refused one, or the oldest one in the ring, after which it tries again. A consumer takes
one record, or as many as there are up to a bound, one after the other. -/

namespace Telemetry.Ring

/-- A producer. -/
structure Exchange.Producer (α : Type) where
  /-- The records it has still to offer, the next one first. -/
  pending : List α
  /-- Whether it tries again when a record is refused, and leaves the ring's policy aside. -/
  retries : Bool
  /-- Whether it is about to make room for its next record. -/
  isEvicting : Bool

/-- A consumer. -/
structure Exchange.Consumer (α : Type) where
  /-- What it has taken, in order. -/
  seen : List α
  /-- While it consumes several records at once: how many it may still take, and how many it has
  taken. -/
  batch : Option (Nat × Nat)

/-- A ring with its producers and consumers, by number. -/
structure Exchange (α : Type) where
  ring : Ring α
  producers : List (Exchange.Producer α)
  consumers : List (Exchange.Consumer α)
  /-- Records that were refused or evicted, in order. -/
  dropped : List α

namespace Exchange

variable {α : Type}

/-- What a producer is to offer, and whether it tries again when a record is refused. -/
structure Supply (α : Type) where
  records : List α
  retries : Bool

/-- A new ring, with producers that have all their records to offer and consumers that have taken
none. -/
def start (config : Config) (supplies : List (Supply α)) (consumers : Nat) : Exchange α where
  ring := Ring.new config
  producers := supplies.map fun s => ⟨s.records, s.retries, false⟩
  consumers := List.replicate consumers ⟨[], none⟩
  dropped := []

/-- Who takes the next step. -/
inductive Turn where
  | producer (i : Nat)
  /-- Consumer `i` takes one record. -/
  | pops (i : Nat)
  /-- Consumer `i` begins to consume up to `n` records. -/
  | consumes (i n : Nat)
  /-- Consumer `i` goes on with that. -/
  | consumer (i : Nat)

/-- Replaces a producer. -/
def setProducer (x : Exchange α) (i : Nat) (p : Producer α) : Exchange α :=
  { x with producers := x.producers.set i p }

/-- Replaces a consumer. -/
def setConsumer (x : Exchange α) (i : Nat) (c : Consumer α) : Exchange α :=
  { x with consumers := x.consumers.set i c }

/-- Producer number `i` tries to store its next record. -/
def offer (x : Exchange α) (i : Nat) (p : Producer α) (a : α) (rest : List α) : Exchange α :=
  match x.ring.tryPush a with
  | (ring, .stored) => { x with ring := ring }.setProducer i { p with pending := rest }
  | (ring, .refused a) =>
    let x := { x with ring := ring }
    if p.retries then x
    else
      match ring.config.overflow with
      | .dropNewest =>
        { x with dropped := x.dropped ++ [a] }.setProducer i { p with pending := rest }
      | .dropOldest => x.setProducer i { p with isEvicting := true }
  | (ring, .unsettled) => { x with ring := ring }

/-- Producer number `i` takes the oldest record out, to make room. -/
def evict (x : Exchange α) (i : Nat) (p : Producer α) : Exchange α :=
  match x.ring.takeOldest with
  | (ring, .taken old) =>
    { x with ring := ring.countEvicted, dropped := x.dropped ++ [old] }.setProducer i
      { p with isEvicting := false }
  | (ring, _) => { x with ring := ring }.setProducer i { p with isEvicting := false }

/-- Consumer number `i` takes a record. -/
def pop (x : Exchange α) (i : Nat) (seen : List α) : Exchange α :=
  match x.ring.pop with
  | (ring, .taken a) => { x with ring := ring }.setConsumer i ⟨seen ++ [a], none⟩
  | (ring, _) => { x with ring := ring }

/-- Consumer number `i`, which may take `left` more records, takes the next one of them. When there
is none it counts what it has taken, and is done. -/
def consume (x : Exchange α) (i : Nat) (seen : List α) (left taken : Nat) : Exchange α :=
  let stop (ring : Ring α) : Exchange α :=
    { x with ring := ring.countPopped taken.toUInt64 }.setConsumer i ⟨seen, none⟩
  match left with
  | 0 => stop x.ring
  | left + 1 =>
    match x.ring.takeOldest with
    | (ring, .taken a) =>
      { x with ring := ring }.setConsumer i ⟨seen ++ [a], some (left, taken + 1)⟩
    | (ring, _) => stop ring

/-- One step. Whoever has nothing to do leaves everything as it is. -/
def step (x : Exchange α) : Turn → Exchange α
  | .producer i =>
    match x.producers[i]? with
    | some ⟨a :: rest, retries, false⟩ => x.offer i ⟨a :: rest, retries, false⟩ a rest
    | some ⟨a :: rest, retries, true⟩ => x.evict i ⟨a :: rest, retries, true⟩
    | _ => x
  | .pops i =>
    match x.consumers[i]? with
    | some ⟨seen, none⟩ => x.pop i seen
    | _ => x
  | .consumes i n =>
    match x.consumers[i]? with
    | some ⟨seen, none⟩ => x.setConsumer i ⟨seen, some (n, 0)⟩
    | _ => x
  | .consumer i =>
    match x.consumers[i]? with
    | some ⟨seen, some (left, taken)⟩ => x.consume i seen left taken
    | _ => x

/-- Takes steps one after the other. -/
def run (x : Exchange α) (turns : List Turn) : Exchange α :=
  turns.foldl step x

/-- Whether every producer has offered all its records. -/
def isOffered (x : Exchange α) : Bool :=
  x.producers.all (·.pending.isEmpty)

/-- Takes out what nobody consumed. -/
def drain (x : Exchange α) : List α × Exchange α :=
  let c := x.ring.consumeAll fun _ _ => Reaction.quiet
  (c.deliveries.map (·.item), { x with ring := c.ring })

/-- All records that were consumed or dropped, with those that are still in the ring. -/
def handled (x : Exchange α) : List α :=
  (x.consumers.map (·.seen)).flatten ++ x.dropped ++ x.drain.1

/-- Whether what was seen from each source came in ascending order. -/
def ascends (source rank : α → Nat) : List α → Bool
  | [] => true
  | a :: rest =>
    rest.all (fun b => source a != source b || rank a < rank b) && ascends source rank rest

/-- Whether every consumer has seen the records of each source in ascending order. -/
def keepsOrder (x : Exchange α) (source rank : α → Nat) : Bool :=
  x.consumers.all fun c => ascends source rank c.seen

/-! ## Taking turns -/

/-- One turn for everybody, the producers first. -/
def round (x : Exchange α) : List Turn :=
  (List.range x.producers.length).map .producer ++ (List.range x.consumers.length).map .pops

/-- Everybody takes turns until every record is offered and the ring is empty, for at most so many
rounds. -/
def finish : Nat → Exchange α → Exchange α
  | 0, x => x
  | rounds + 1, x =>
    if x.isOffered && x.ring.isEmpty then x else finish rounds (x.run x.round)

end Exchange

end Telemetry.Ring
