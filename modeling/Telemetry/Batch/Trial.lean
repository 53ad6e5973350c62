import Telemetry.Batch.Step
import Telemetry.Export.Retry
import Telemetry.Export.Scripted
import Telemetry.Processor

set_option autoImplicit false

/-! # Trying out a batch processor

A trial is a batch processor with a scripted exporter, run in a fixed order: callers go on as far
as they can before the worker takes its next step, and every call is run until nothing can move
any more. Calls on the exporter can be held up, kind by kind; the worker is then parked in the
call until it is let go. A caller that still waits when everything is at rest runs out of time,
unless it was begun to wait in the background. A caller that allows no time at all runs out of it
before the worker can act. -/

namespace Telemetry.Batch

variable {α : Type}

/-- A call on the exporter under way: the attempt, counted from zero, and how many may follow. -/
structure Attempt (α : Type) where
  request : Request α
  retry : Nat
  left : Nat

/-- A batch processor on trial. -/
structure Trial (α : Type) where
  batch : Batch α
  exporter : Retrying (Script α)
  /-- How the exporter tries again; `none` if it does not. -/
  retries : Option RetryConfig
  /-- The kinds of calls that are held up. -/
  held : List Request.Kind
  /-- The call that is held up. -/
  parked : Option (Attempt α)
  /-- A caller that is kept from moving. -/
  frozen : Option Nat
  /-- Whether the timer runs out while records are queued and the worker has nothing to do. -/
  isTimed : Bool
  callerEvents : List Event
  workerEvents : List Event

namespace Trial

/-- A processor that has just been started. -/
def start (name : String) (config : BatchConfig) (script : Script α)
    (retries : Option RetryConfig) : Trial α where
  batch := Batch.start name config
  exporter := Retrying.around script
  retries := retries
  held := []
  parked := none
  frozen := none
  isTimed := false
  callerEvents := [startedEvent name config]
  workerEvents := []

/-! ## Steps -/

/-- The report that a note shows. -/
def reported : Note α → Option Event
  | .event e => some e
  | _ => none

/-- Takes a step, if it can happen, and files its reports under the thread that made it. -/
def apply (t : Trial α) (label : Label α) : Trial α :=
  match t.batch.step label with
  | none => t
  | some (batch, notes) =>
    let events := notes.filterMap reported
    let t := { t with batch := batch }
    match label with
    | .begins _ | .caller _ _ => { t with callerEvents := t.callerEvents ++ events }
    | _ => { t with workerEvents := t.workerEvents ++ events }

/-- Begins an attempt, which may be held up. -/
def enter (t : Trial α) (a : Attempt α) : Trial α :=
  let s :=
    match t.retries, a.request with
    | some c, .send _ => t.exporter.prepare c (Script.exporter α) a.retry
    | _, _ => t.exporter
  { t with
    exporter := { s with inner := s.inner.enter a.request }
    parked := if t.held.contains a.request.kind then some a else none }

/-- Ends a call on the exporter. -/
def finish (t : Trial α) (o : Outcome) : Trial α :=
  { t with parked := none }.apply (.ended o)

/-- Goes on with an attempt, and with those that follow it unless one is held up. -/
def proceed (request : Request α) : Nat → Nat → Trial α → Trial α
  | left, retry, t =>
    let (o, inner) := t.exporter.inner.leave request
    let t := { t with exporter := { t.exporter with inner := inner } }
    match t.retries, request, o with
    | some c, .send _, .returned r =>
      match Retrying.conclude (Script.exporter α) retry r t.exporter with
      | (.error p, s) => { t with exporter := s }.finish (.panicked p)
      | (.ok events, s) =>
        let t := { t with exporter := s, workerEvents := t.workerEvents ++ events }
        if Retrying.isFinal r then t.finish (.returned r)
        else
          match left with
          | 0 => t.finish (.returned (Retrying.exhausted c))
          | left + 1 =>
            let t := t.enter ⟨request, retry + 1, left⟩
            if t.parked.isSome then t else proceed request left (retry + 1) t
    | _, _, o => t.finish o

/-- Calls the exporter. -/
def call (t : Trial α) (request : Request α) : Trial α :=
  let left :=
    match t.retries with
    | some c => c.maxRetries.toNat
    | none => 0
  let t := t.enter ⟨request, 0, left⟩
  if t.parked.isSome then t else proceed request left 0 t

/-- Whether a caller that allows this time runs out of it at once. -/
def isImpatient : Caller α → Bool
  | .requestingFlush limit => limit.isZero
  | .closing limit _ => limit.isZero
  | _ => false

/-- Whether a caller can take a step that leads on. -/
def canMove (t : Trial α) (i : Nat) (c : Caller α) : Bool :=
  if t.frozen = some i then false
  else
    match c with
    | .done _ => false
    | .awaitingFlush _ _ notified => notified
    | .awaitingShutdown _ _ notified => notified
    | .joining _ _ => match t.batch.worker with | .stopped _ => true | _ => false
    | _ => true

/-- The first caller that can move, among those from number `i` on. -/
def nextCaller (t : Trial α) : Nat → List (Caller α) → Option (Nat × Caller α)
  | _, [] => none
  | i, c :: rest => if t.canMove i c then some (i, c) else nextCaller t (i + 1) rest

/-- Whether the timer runs out now. -/
def timerExpires (t : Trial α) : Bool :=
  t.isTimed && t.batch.queue.length != 0

/-- The next step of the worker, which may be one of the exporter; `none` if it has nothing to
do, is held up or has ended. -/
def turnWorker (t : Trial α) : Option (Trial α) :=
  match t.batch.worker with
  | .asleep notified => if notified || t.timerExpires then some (t.apply (.worker true)) else none
  | .stopped _ => none
  | .naming _ _ _ | .namingClose _ _ =>
    let (name, inner) := t.exporter.inner.askName
    some ({ t with exporter := { t.exporter with inner := inner } }.apply (.named name))
  | w =>
    match w.pending? with
    | some request => if t.parked.isSome then none else some (t.call request)
    | none => some (t.apply (.worker t.timerExpires))

/-- The next step; `none` at rest. -/
def turn (t : Trial α) : Option (Trial α) :=
  match t.nextCaller 0 t.batch.callers with
  | some (i, c) => some (t.apply (.caller i (isImpatient c)))
  | none => t.turnWorker

/-- Takes at most so many steps, until nothing moves. -/
def settleWithin : Nat → Trial α → Trial α
  | 0, t => t
  | steps + 1, t =>
    match t.turn with
    | none => t
    | some t => settleWithin steps t

/-- More steps than can be taken before everything rests. -/
def patience (t : Trial α) : Nat :=
  64 * (t.batch.queue.length + t.batch.callers.length + 16)

/-- Runs until nothing moves. -/
def settle (t : Trial α) : Trial α :=
  t.settleWithin t.patience

/-! ## Calls on the processor -/

/-- Begins a call and tells its number. -/
def begin (t : Trial α) (op : Operation α) : Nat × Trial α :=
  (t.batch.callers.length, t.apply (.begins op))

/-- The answer of a call that has returned. -/
def returned? (t : Trial α) (i : Nat) : Option (Option ProcessorResult) :=
  match t.batch.callers[i]? with
  | some (.done r) => some r
  | _ => none

/-- Lets the time of a caller run out if it still waits. -/
def expire (t : Trial α) (i : Nat) : Trial α :=
  if (t.returned? i).isSome then t else (t.apply (.caller i true)).settle

/-- Strikes a call that has returned off the list, if it is the latest one. Nothing else depends
on it: a call that has returned takes no more steps. -/
def forget (t : Trial α) (i : Nat) : Trial α :=
  if (t.returned? i).isSome ∧ t.batch.callers.length = i + 1 then
    { t with batch := { t.batch with callers := t.batch.callers.take i } }
  else t

/-- A whole call, with its answer if it has one. -/
def run (t : Trial α) (op : Operation α) : Option ProcessorResult × Trial α :=
  let (i, t) := t.begin op
  let t := t.settle.expire i
  ((t.returned? i).join, t.forget i)

/-- A call that waits in the background, with its number. -/
def runBehind (t : Trial α) (op : Operation α) : Nat × Trial α :=
  let (i, t) := t.begin op
  (i, t.settle)

/-! ## Holding up the exporter -/

/-- Lets the parked call go on; tells whether there was one. -/
def release (t : Trial α) : Bool × Trial α :=
  match t.parked with
  | none => (false, t)
  | some a => (true, (proceed a.request a.left a.retry { t with parked := none }).settle)

/-- Holds up calls of these kinds from now on. -/
def hold (t : Trial α) (kinds : List Request.Kind) : Trial α :=
  { t with held := kinds }

/-- Holds up nothing any more, and lets the parked call go on. -/
def releaseAll (t : Trial α) : Trial α :=
  ({ t with held := [] }.release).2

/-! ## A shutdown in the middle of a call -/

/-- The record that a caller is about to let go of. -/
def discarded? : Caller α → Option α
  | .discarding a _ => some a
  | .discardingLate a => some a
  | _ => none

/-- Lets caller number `i` go on until it is about to let go of a certain record; tells whether
it got there. -/
def advanceTo [BEq α] (lost : α) (i : Nat) : Nat → Trial α → Bool × Trial α
  | 0, t => (false, t)
  | steps + 1, t =>
    match t.batch.callers[i]? with
    | some (.done _) => (false, t)
    | some c =>
      if discarded? c == some lost then (true, t)
      else advanceTo lost i steps (t.apply (.caller i false))
    | none => (false, t)

/-- Receives a record; when a certain record is lost on the way, the exporter is released and the
processor shut down before the call goes on. Answers with the result of that shutdown. -/
def receiveAround [BEq α] (t : Trial α) (lost a : α) (limit : Duration) :
    Option ProcessorResult × Trial α :=
  let (i, t) := t.begin (.receive a)
  match advanceTo lost i t.patience t with
  | (false, t) => (none, t.settle)
  | (true, t) =>
    let (r, t) := ({ t with frozen := some i }.releaseAll).run (.shutdown limit)
    (r, { t with frozen := none }.settle)

/-! ## As a processor -/

/-- The answer to a request, and how long it took: all the time there was, or none. -/
def answerOf (limit : Duration) (r : Option ProcessorResult) : Processor.Answer :=
  match r with
  | some (.error (.timeout d)) => ⟨.error (.timeout d), limit⟩
  | some r => ⟨r, Duration.zero⟩
  | none => ⟨.ok (), Duration.zero⟩

/-- The processor. -/
def processor (α : Type) : Processor α (Trial α) where
  receive := fun a t => (.ok (), (t.run (.receive a)).2)
  flush := fun limit t =>
    let (r, t) := t.run (.flush limit)
    (answerOf limit r, t)
  shutdown := fun limit t =>
    let (r, t) := t.run (.shutdown limit)
    (answerOf limit r, t)

end Trial

end Telemetry.Batch
