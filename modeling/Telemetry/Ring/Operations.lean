import Telemetry.Ring.Protocol

set_option autoImplicit false

/-! # Operations of one thread on a ring

Here each operation runs to its end before the next one starts. Operations that hand records to a
callback take the callback's behaviour as data: what it does with the ring at each of its calls,
and whether it panics. A callback that panics loses the record it was given, and for an evicting
push also the record that was offered.

An operation that met a slot in transit would start again. With one thread there is no such slot,
so five steps always suffice; `unsettled` stands for the case that never arises. -/

namespace Telemetry.Ring

variable {α : Type}

/-! ## Storing and taking -/

/-- The answer of an attempt to store a record. -/
inductive Push (α : Type) where
  | stored
  /-- The ring is full; the record comes back. -/
  | refused (a : α)
  | unsettled

/-- The answer of an attempt to take a record. -/
inductive Pop (α : Type) where
  | taken (a : α)
  | empty
  | unsettled

/-- The longest run of an operation that does not start again. -/
def longestRun : Nat := 5

/-- Stores a record if there is room, and counts the attempt. -/
def tryPush (r : Ring α) (a : α) : Ring α × Push α :=
  match solo longestRun r (.pushTail a) with
  | (r, .stored) => (r.count fun c => { c with pushed := c.pushed + 1 }, .stored)
  | (r, .refused a) => (r.count fun c => { c with rejected := c.rejected + 1 }, .refused a)
  | (r, _) => (r, .unsettled)

/-- Stores a record if there is room, and drops it otherwise; says whether it was stored. -/
def push (r : Ring α) (a : α) : Ring α × Bool :=
  match r.tryPush a with
  | (r, .stored) => (r, true)
  | (r, _) => (r, false)

/-- Takes the oldest record without counting it. -/
def takeOldest (r : Ring α) : Ring α × Pop α :=
  match solo longestRun r .popHead with
  | (r, .taken (some a)) => (r, .taken a)
  | (r, .nothing) => (r, .empty)
  | (r, _) => (r, .unsettled)

/-- Counts records handed to consumers. -/
def countPopped (r : Ring α) (n : UInt64) : Ring α :=
  r.count fun c => { c with popped := c.popped + n }

/-- Takes the oldest record. -/
def pop (r : Ring α) : Ring α × Pop α :=
  match r.takeOldest with
  | (r, .taken a) => (r.countPopped 1, .taken a)
  | (r, p) => (r, p)

/-! ## Callbacks -/

/-- What a callback does at one of its calls: the records it pushes into the ring, in order, and
whether it then panics. -/
structure Reaction (α : Type) where
  pushes : List α
  panics : Bool

/-- A call that leaves the ring alone. -/
def Reaction.quiet : Reaction α :=
  ⟨[], false⟩

/-- How an operation with a callback ended. -/
inductive Ending where
  | returned
  /-- A panic of the callback passed through. -/
  | panicked
  | unsettled
deriving DecidableEq

/-- Pushes records one after the other; says which were stored. -/
def pushAll (r : Ring α) : List α → Ring α × List Bool
  | [] => (r, [])
  | a :: rest =>
    let (r, stored) := r.push a
    let (r, others) := r.pushAll rest
    (r, stored :: others)

/-! ## Evicting -/

/-- An evicting push: the ring afterwards, the records handed to the callback, the answers to the
callback's own pushes, and how it ended. -/
structure Eviction (α : Type) where
  ring : Ring α
  evicted : List α
  accepted : List Bool
  ending : Ending

/-- Counts a record taken to make room. -/
def countEvicted (r : Ring α) : Ring α :=
  r.count fun c => { c with evicted := c.evicted + 1 }

/-- Stores a record, evicting the oldest ones while the ring is full, for at most `rounds`
attempts. The callback's calls follow `reactions`; once they are used up it leaves the ring
alone. -/
def evictRounds (a : α) : Nat → Ring α → List (Reaction α) → Eviction α
  | 0, r, _ => ⟨r, [], [], .unsettled⟩
  | rounds + 1, r, reactions =>
    match r.tryPush a with
    | (r, .stored) => ⟨r, [], [], .returned⟩
    | (r, .unsettled) => ⟨r, [], [], .unsettled⟩
    | (r, .refused a) =>
      match r.takeOldest with
      | (r, .unsettled) => ⟨r, [], [], .unsettled⟩
      | (r, .empty) => evictRounds a rounds r reactions
      | (r, .taken oldest) =>
        let r := r.countEvicted
        let reaction := reactions.headD Reaction.quiet
        let (r, accepted) := r.pushAll reaction.pushes
        if reaction.panics then ⟨r, [oldest], accepted, .panicked⟩
        else
          let e := evictRounds a rounds r reactions.tail
          { e with evicted := oldest :: e.evicted, accepted := accepted ++ e.accepted }

/-- Stores a record, evicting the oldest ones while the ring is full. Each call of the callback
can fill the ring again, so there is at most one attempt more than calls that push. -/
def pushEvicting (r : Ring α) (a : α) (reactions : List (Reaction α)) : Eviction α :=
  evictRounds a (reactions.length + 2) r reactions

/-- An offer under the ring's policy: whether the record was stored, and the records that were
dropped for it, be it the record itself or older ones. -/
structure Offer (α : Type) where
  ring : Ring α
  queued : Bool
  dropped : List α

/-- Offers a record under the ring's policy, with a callback that only takes what is dropped. -/
def offer (r : Ring α) (a : α) : Offer α :=
  match r.config.overflow with
  | .dropNewest =>
    match r.tryPush a with
    | (r, .stored) => ⟨r, true, []⟩
    | (r, .refused a) => ⟨r, false, [a]⟩
    | (r, .unsettled) => ⟨r, false, []⟩
  | .dropOldest =>
    let e := r.pushEvicting a []
    ⟨e.ring, true, e.evicted⟩

/-- An offer with a callback that may use the ring: the ring afterwards, whether the record was
stored if the offer returned, the records handed to the callback, the answers to the callback's own
pushes, and how the offer ended. -/
structure Offering (α : Type) where
  ring : Ring α
  queued : Bool
  dropped : List α
  accepted : List Bool
  ending : Ending

/-- Offers a record under the ring's policy. The callback is called with what is dropped, once with
the record itself or once for each older one; its calls follow `reactions`. -/
def offerReacting (r : Ring α) (a : α) (reactions : List (Reaction α)) : Offering α :=
  match r.config.overflow with
  | .dropNewest =>
    match r.tryPush a with
    | (r, .stored) => ⟨r, true, [], [], .returned⟩
    | (r, .unsettled) => ⟨r, false, [], [], .unsettled⟩
    | (r, .refused a) =>
      let reaction := reactions.headD Reaction.quiet
      let (r, accepted) := r.pushAll reaction.pushes
      ⟨r, false, [a], accepted, if reaction.panics then .panicked else .returned⟩
  | .dropOldest =>
    let e := r.pushEvicting a reactions
    ⟨e.ring, true, e.evicted, e.accepted, e.ending⟩

/-! ## Consuming -/

/-- A record handed to a consumer: the number of records that were then still in the ring, and
the answers to the pushes of the handler's call. -/
structure Delivery (α : Type) where
  item : α
  remaining : UInt64
  accepted : List Bool

/-- A bulk consumption: the ring afterwards, the records handed out in order (one that was lost
to a panic included), and how it ended. -/
structure Consumption (α : Type) where
  ring : Ring α
  deliveries : List (Delivery α)
  ending : Ending

/-- Hands out up to `n` of the oldest records, one at a time. `handler k` is what the handler does
with the record at its call number `k`. -/
def consumeRounds (handler : Nat → α → Reaction α) : Nat → Nat → Ring α → Consumption α
  | 0, _, r => ⟨r, [], .returned⟩
  | n + 1, k, r =>
    match r.takeOldest with
    | (r, .empty) => ⟨r, [], .returned⟩
    | (r, .unsettled) => ⟨r, [], .unsettled⟩
    | (r, .taken item) =>
      let reaction := handler k item
      let remaining := r.length
      let (r, accepted) := r.pushAll reaction.pushes
      let delivery : Delivery α := ⟨item, remaining, accepted⟩
      if reaction.panics then ⟨r, [delivery], .panicked⟩
      else
        let c := consumeRounds handler n (k + 1) r
        { c with deliveries := delivery :: c.deliveries }

/-- Hands out up to `n` of the oldest records. They are counted together at the end, so a panic
of the handler leaves them uncounted. -/
def consume (r : Ring α) (n : Nat) (handler : Nat → α → Reaction α) : Consumption α :=
  let c := consumeRounds handler n 0 r
  if c.ending = .returned then
    { c with ring := c.ring.countPopped c.deliveries.length.toUInt64 }
  else c

/-- Hands out the records that are queued now, at most as many as the ring can hold. -/
def consumeAll (r : Ring α) (handler : Nat → α → Reaction α) : Consumption α :=
  r.consume r.config.capacity.toNat handler

/-- Takes everything out of the ring, as its end does. -/
def clear (r : Ring α) : Ring α :=
  (consumeRounds (fun _ _ => Reaction.quiet) (r.config.capacity.toNat + 1) 0 r).ring

end Telemetry.Ring
