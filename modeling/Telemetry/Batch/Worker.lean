import Telemetry.Batch.Caller

set_option autoImplicit false

/-! # Steps of the worker

The worker waits for a request to shut down, a request to flush, a full batch or its timer, in
this order of urgency. A pass exports as many records as were queued when it began; the final
drain goes on until the queue is empty. A batch that fails is counted, reported and dropped. The
exporter's answers and its name come in from outside; only a panic while it is asked for its name
ends the worker before its time, and then every caller gets an answer as well. -/

namespace Telemetry.Batch

variable {α : Type}

/-! ## Passes -/

/-- The first failure of two answers. -/
def firstFailure (first second : ExportResult) : ExportResult :=
  match first with
  | .ok () => second
  | .error e => .error e

/-- How many records the next batch of a pass may have. -/
def Pass.limit (p : Pass) (config : BatchConfig) : Nat :=
  match p.remaining with
  | none => config.maxBatchSize.toNat
  | some n => min n config.maxBatchSize.toNat

/-- The pass behind a batch. -/
def Pass.after (p : Pass) (size : Nat) (r : ExportResult) : Pass :=
  { p with remaining := p.remaining.map (· - size), result := firstFailure p.result r }

/-- A pass over what is queued now. -/
def Pass.snapshot (errand : Errand) (length : Nat) : Pass :=
  ⟨errand, some length, .ok ()⟩

/-- The final drain. -/
def Pass.finalDrain (limit : Duration) : Pass :=
  ⟨.shutdown limit, none, .ok ()⟩

/-- Where a pass leads once it is over, with the call on the exporter that begins then. -/
def Pass.finish (p : Pass) : Worker α × List (Note α) :=
  match p.errand with
  | .routine => (.deciding, [])
  | .flush number limit => (.flushing number limit p.result, [.calls (.flush limit)])
  | .shutdown limit => (.sealing limit p.result, [])

/-- Hands the batch to the exporter; a batch without records ends the pass. -/
def Pass.dispatch (p : Pass) (batch : List α) : Worker α × List (Note α) :=
  match batch with
  | [] => p.finish
  | _ => (.sending p batch, [.calls (.send batch)])

/-! ## Decisions and answers -/

/-- Looks for something to do. `expired` says whether the timer has run out. -/
def nextTask (s : Batch α) (expired : Bool) : Worker α :=
  if s.control.shutdownRequested then .collecting (.finalDrain s.control.shutdownLimit) []
  else if s.control.flushCompleted < s.control.flushRequested then
    .rearming (.flush s.control.flushRequested s.control.flushLimit)
  else if s.exportSignaled || expired then .rearming .routine
  else .asleep false

/-- Answers the requests to flush up to a number, unless they have an answer. -/
def completeFlush (s : Batch α) (number : Nat) (result : ProcessorResult) : Batch α :=
  if s.control.flushCompleted < number then
    { s with control := { s.control with flushCompleted := number, flushResult := result } }
  else s

/-- Answers all requests: those to flush with the result of the final drain, those to shut down
with the exporter's answer. -/
def completeShutdown (s : Batch α) (drained closed : ProcessorResult) : Batch α :=
  { s with
    control := { s.control with
      flushCompleted := s.control.flushRequested
      flushResult := drained
      shutdownResult := some closed } }

/-- Answers all requests in place of a worker that ends before its time. -/
def terminate (s : Batch α) : Batch α :=
  { s with
    control := { s.control with
      shutdownRequested := true
      flushCompleted := s.control.flushRequested
      flushResult := .error .workerTerminated
      shutdownResult := some (.error .workerTerminated) }
    isShutdown := true }

/-! ## Steps -/

/-- One step of the worker; `none` if it waits for the exporter or has ended. `expired` says
whether its timer has run out. -/
def Worker.step (s : Batch α) (expired : Bool) : Worker α → Option (Move α (Worker α))
  | .deciding => s.goTo (s.nextTask expired)
  | .asleep _ => s.goTo .deciding
  | .rearming errand => goTo { s with exportSignaled := false } (.measuring errand)
  | .measuring errand => s.goTo (.collecting (.snapshot errand s.queue.length) [])
  | .collecting p batch =>
    let (place, notes) := p.dispatch batch
    if batch.length < p.limit s.config then
      match s.queue.pop? with
      | some (a, q) => goTo { s with queue := q } (.collecting p (batch ++ [a]))
      | none => some ⟨s, place, notes⟩
    else some ⟨s, place, notes⟩
  | .countingExported p size =>
    (s.count fun c => c.exportRecords size.toUInt64).goTo (.countingBatch p size)
  | .countingBatch p size =>
    (s.count Counters.exportBatch).goTo (.collecting (p.after size (.ok ())) [])
  | .countingFailure p size e => (s.count Counters.failCall).goTo (.countingFailed p size e)
  | .countingFailed p size e =>
    (s.count fun c => c.failRecords size.toUInt64).goTo (.naming p size e)
  | .publishing number result => (s.completeFlush number result).goTo .announcing
  | .announcing => s.wakeCallers.goTo .deciding
  | .sealing limit result =>
    goTo { s with isDrained := true } (.sweeping (.taking 0) limit result)
  | .sweeping w limit result =>
    match w.step s with
    | (s, some w, notes) => some ⟨s, .sweeping w limit result, notes⟩
    | (s, none, notes) => some ⟨s, .closing limit result, notes ++ [.calls (.close limit)]⟩
  | .concluding result closeResult =>
    (s.completeShutdown result.toProcessor closeResult.toProcessor).goTo .announcingEnd
  | .announcingEnd => s.wakeCallers.goTo .reporting
  | .reporting =>
    some ⟨s, .stopped false, [.event (s.plainEvent .debug "batch worker stopped")]⟩
  | .unwinding =>
    some ⟨s.terminate, .unwindSealing,
      [.event (s.plainEvent .error "batch worker terminated unexpectedly")]⟩
  | .unwindSealing => goTo { s with isDrained := true } (.unwindSweeping (.taking 0))
  | .unwindSweeping w =>
    match w.step s with
    | (s, some w, notes) => some ⟨s, .unwindSweeping w, notes⟩
    | (s, none, notes) => some ⟨s, .unwindAnnouncing, notes⟩
  | .unwindAnnouncing => s.wakeCallers.goTo (.stopped true)
  | .sending _ _ | .flushing _ _ _ | .closing _ _ => none
  | .naming _ _ _ | .namingClose _ _ => none
  | .stopped _ => none

/-- The end of a call on the exporter; `none` if there is none. A panic counts as a failure. -/
def Worker.ended (o : Outcome) : Worker α → Option (Worker α)
  | .sending p batch =>
    match o.guarded with
    | .ok () => some (.countingExported p batch.length)
    | .error e => some (.countingFailure p batch.length e)
  | .flushing number _ result =>
    some (.publishing number (firstFailure result o.guarded).toProcessor)
  | .closing _ result =>
    match o.guarded with
    | .ok () => some (.concluding result (.ok ()))
    | .error e => some (.namingClose result e)
  | _ => none

/-- The exporter's answer when it is asked for its name; `none` if it is not. -/
def Worker.named (s : Batch α) (name : Except Panic String) :
    Worker α → Option (Move α (Worker α))
  | .naming p size e =>
    match name with
    | .ok name =>
      some ⟨s, .collecting (p.after size (.error e)) [], [.event (s.failureEvent name size e)]⟩
    | .error _ => s.goTo .unwinding
  | .namingClose result e =>
    match name with
    | .ok name => some ⟨s, .concluding result (.error e), [.event (s.closeEvent name e)]⟩
    | .error _ => s.goTo .unwinding
  | _ => none

/-- Whether the worker waits for the end of a call on the exporter, and for which. -/
def Worker.pending? : Worker α → Option (Request α)
  | .sending _ batch => some (.send batch)
  | .flushing _ limit _ => some (.flush limit)
  | .closing limit _ => some (.close limit)
  | _ => none

end Telemetry.Batch
