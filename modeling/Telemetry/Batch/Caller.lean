import Telemetry.Batch.State

set_option autoImplicit false

/-! # Steps of callers

A call on a batch processor is a walk through the places of `Batch.Caller`. A producer never
waits: it queues its record, counts it and wakes the worker if a batch is full. A record that
finds the queue full is lost, or takes the place of the oldest one. A producer that finds the
worker done with its final drain discards what is queued, its own record included: either the
worker's own sweep behind the drain sees a record, or its producer sees that the drain is over.

Callers that flush or shut down register a request, wake the worker and wait for the answer until
their time is up. A step of a waiting caller is a look at the answer, whatever woke the caller. -/

namespace Telemetry.Batch

variable {α : Type}

/-! ## Shared changes -/

/-- Changes the counters. -/
def count (s : Batch α) (f : Counters → Counters) : Batch α :=
  { s with counters := f s.counters }

/-- Wakes the worker if it waits. -/
def wakeWorker (s : Batch α) : Batch α :=
  match s.worker with
  | .asleep _ => { s with worker := .asleep true }
  | _ => s

/-- Wakes a caller if it waits for the worker. -/
def Caller.notify : Caller α → Caller α
  | .awaitingFlush number limit _ => .awaitingFlush number limit true
  | .awaitingShutdown limit implied _ => .awaitingShutdown limit implied true
  | c => c

/-- Wakes all callers that wait for the worker. -/
def wakeCallers (s : Batch α) : Batch α :=
  { s with callers := s.callers.map Caller.notify }

/-- One step of discarding what is queued. At most as many records as the queue holds are taken;
nothing is counted if there were none. The next place is `none` at the end. -/
def Sweep.step (s : Batch α) : Sweep → Batch α × Option Sweep × List (Note α)
  | .taking n =>
    let stop : Option Sweep := if n = 0 then none else some (.unreceiving n)
    if n < s.queue.capacity then
      match s.queue.pop? with
      | some (a, q) => ({ s with queue := q }, some (.taking (n + 1)), [.lost a])
      | none => (s, stop, [])
    else (s, stop, [])
  | .unreceiving n => (s.count fun c => c.unreceive n.toUInt64, some (.counting n), [])
  | .counting n => (s.count fun c => c.dropLate n.toUInt64, none, [])

/-! ## Calls -/

/-- What a processor can be asked to do. -/
inductive Operation (α : Type) where
  | receive (a : α)
  | flush (limit : Duration)
  | shutdown (limit : Duration)
  | drop

/-- The first place of a call. -/
def Operation.place : Operation α → Caller α
  | .receive a => .receiving a
  | .flush limit => .flushing limit
  | .shutdown limit => .closing limit false
  | .drop => .dropping

/-- What a step of a thread leaves: the state, the thread's next place and what is shown. -/
structure Move (α π : Type) where
  state : Batch α
  place : π
  notes : List (Note α)

/-- A step that shows nothing. -/
def goTo {π : Type} (s : Batch α) (place : π) : Option (Move α π) :=
  some ⟨s, place, []⟩

/-! ## Waiting -/

/-- A look at the answer to a request to flush. -/
def lookAtFlush (s : Batch α) (number : Nat) (limit : Duration) (expired : Bool) : Caller α :=
  if number ≤ s.control.flushCompleted then .done (some s.control.flushResult)
  else if expired then .done (some (.error (.timeout limit)))
  else .awaitingFlush number limit false

/-- Registers a request to flush and looks at the answer. Requests are refused once shutdown was
requested. -/
def requestFlush (s : Batch α) (limit : Duration) (expired : Bool) : Move α (Caller α) :=
  if s.control.shutdownRequested then ⟨s, .done (some (.error .alreadyShutdown)), []⟩
  else
    let number := s.control.flushRequested + 1
    let s := { s with
      control := { s.control with flushRequested := number, flushLimit := limit } }
    ⟨s.wakeWorker, s.lookAtFlush number limit expired, []⟩

/-- A look at the answer to a request to shut down. -/
def lookAtShutdown (s : Batch α) (limit : Duration) (implied expired : Bool) :
    Caller α × List (Note α) :=
  match s.control.shutdownResult with
  | some result => (.claiming result implied, [])
  | none =>
    if expired then
      (.leaving (.error (.timeout limit)) implied, [.event (s.lateEvent limit)])
    else (.awaitingShutdown limit implied false, [])

/-- Registers a request to shut down, if it is the first one, and looks at the answer. -/
def requestShutdown (s : Batch α) (limit : Duration) (implied expired : Bool) :
    Move α (Caller α) :=
  if s.control.shutdownRequested then
    let (place, notes) := s.lookAtShutdown limit implied expired
    ⟨s, place, notes⟩
  else
    let s := { s with
      control := { s.control with shutdownRequested := true, shutdownLimit := limit }
      isShutdown := true }
    let (place, notes) := s.lookAtShutdown limit implied expired
    ⟨s.wakeWorker, place, .event (s.plainEvent .debug "batch processor shutting down") :: notes⟩

/-! ## Steps -/

/-- One step of a caller; `none` if the call has returned or waits for the worker's end.
`expired` says whether the caller's time is up. -/
def Caller.step (s : Batch α) (expired : Bool) : Caller α → Option (Move α (Caller α))
  | .receiving a => s.goTo (if s.isShutdown then .refusing a else .offering a)
  | .refusing a => (s.count fun c => c.dropLate 1).goTo (.discardingLate a)
  | .discardingLate a => some ⟨s, .done none, [.lost a]⟩
  | .offering a =>
    match s.queue.push? a with
    | some q => some ⟨{ s with queue := q }, .counting, [.accepted a]⟩
    | none =>
      match s.config.overflow with
      | .dropNewest => s.goTo (.overflowing a none)
      | .dropOldest => s.goTo (.evicting a)
  | .evicting a =>
    match s.queue.pop? with
    | some (old, q) => goTo { s with queue := q } (.overflowing old (some a))
    | none => s.goTo (.offering a)
  | .overflowing lost next => (s.count Counters.overflow).goTo (.warning lost next)
  | .warning lost next =>
    some ⟨{ s with overflowWarned := true }, .discarding lost next,
      if s.overflowWarned then [] else [.event s.overflowEvent]⟩
  | .discarding lost next =>
    some ⟨s, match next with | some a => .offering a | none => .checkingDrain, [.lost lost]⟩
  | .counting => (s.count Counters.receive).goTo .checkingDrain
  | .checkingDrain => s.goTo (if s.isDrained then .sweeping (.taking 0) else .measuring)
  | .sweeping w =>
    match w.step s with
    | (s, some w, notes) => some ⟨s, .sweeping w, notes⟩
    | (s, none, notes) => some ⟨s, .measuring, notes⟩
  | .measuring =>
    s.goTo (if s.config.maxBatchSize.toNat ≤ s.queue.length then .signaling else .done none)
  | .signaling =>
    goTo { s with exportSignaled := true }
      (if s.exportSignaled then .done none else .notifying)
  | .notifying => s.wakeWorker.goTo (.done none)
  | .flushing limit =>
    s.goTo (if s.isShutdown then .done (some (.error .alreadyShutdown))
      else .requestingFlush limit)
  | .requestingFlush limit => some (s.requestFlush limit expired)
  | .awaitingFlush number limit _ => s.goTo (s.lookAtFlush number limit expired)
  | .dropping =>
    s.goTo (if s.control.shutdownRequested then .done none
      else .closing s.config.shutdownTimeout true)
  | .closing limit implied => some (s.requestShutdown limit implied expired)
  | .awaitingShutdown limit implied _ =>
    let (place, notes) := s.lookAtShutdown limit implied expired
    some ⟨s, place, notes⟩
  | .claiming result implied =>
    goTo { s with workerClaimed := true }
      (if s.workerClaimed then .leaving result implied else .joining result implied)
  | .joining result implied =>
    match s.worker with
    | .stopped panicked =>
      some ⟨s, .leaving result implied,
        if panicked then [.event (s.plainEvent .error "batch worker panicked")] else []⟩
    | _ => none
  | .leaving result implied =>
    if implied then
      some ⟨s, .done none,
        match result with | .ok () => [] | .error e => [.event (s.dropEvent e)]⟩
    else s.goTo (.done (some result))
  | .done _ => none

end Telemetry.Batch
