import Telemetry.Config.Basic
import Telemetry.Counters
import Telemetry.Event
import Telemetry.Export.Basic

set_option autoImplicit false

/-! # A batch processor and its threads

A batch processor keeps the records it receives in a bounded queue. One worker thread takes them
out in batches and is the only one that calls the exporter. The threads that call the processor
and the worker agree through a lock, two conditions to wait for, a few flags and the counters.

A state of the whole is what the threads share and the place of each thread in its work. What a
thread does while it holds the lock is one step, so the lock itself does not appear. Reads and
writes of single flags, changes of counters and operations on the queue are steps of their own. -/

namespace Telemetry

/-! ## What the lock guards -/

/-- The requests to the worker and its answers. Requests to flush are numbered from one; the
worker answers all requests up to a number at once. The numbers are natural numbers, where a machine
has words of 64 bits: runs with 2^64 calls that flush, in which the words would come up again, are
left out. In all other runs the words compare as the numbers do (`FlushNumber.words_le_iff`). -/
structure Batch.Control where
  /-- The number of the latest request to flush. -/
  flushRequested : Nat
  /-- The number up to which requests to flush were answered. -/
  flushCompleted : Nat
  /-- The answer to the requests up to that number. -/
  flushResult : ProcessorResult
  /-- The time that the latest request to flush allows. -/
  flushLimit : Duration
  shutdownRequested : Bool
  /-- The time that the first request to shut down allows. -/
  shutdownLimit : Duration
  /-- The answer to all requests to shut down, once the worker has stopped. -/
  shutdownResult : Option ProcessorResult

/-! ## Places of threads -/

/-- Where a thread is in discarding the records behind the final drain. -/
inductive Batch.Sweep where
  /-- Has taken so many records, about to take another. -/
  | taking (taken : Nat)
  /-- About to take so many records back from those received. -/
  | unreceiving (taken : Nat)
  /-- About to count so many records as refused after shutdown. -/
  | counting (taken : Nat)

/-- Where a thread is in a call on the processor. -/
inductive Batch.Caller (α : Type) where
  /-- Receiving: about to see whether shutdown was requested. -/
  | receiving (a : α)
  /-- Receiving: too late, about to count the record as refused. -/
  | refusing (a : α)
  /-- Receiving: too late and counted, about to let go of the record. -/
  | discardingLate (a : α)
  /-- Receiving: about to put the record into the queue. -/
  | offering (a : α)
  /-- Receiving: the queue was full, about to take its oldest record out. -/
  | evicting (a : α)
  /-- Receiving: about to count a lost record. `next` is the record that is still to be queued. -/
  | overflowing (lost : α) (next : Option α)
  /-- Receiving: about to see whether a loss was reported before. -/
  | warning (lost : α) (next : Option α)
  /-- Receiving: about to let go of a lost record. -/
  | discarding (lost : α) (next : Option α)
  /-- Receiving: queued, about to count the record. -/
  | counting
  /-- Receiving: about to see whether the worker has done its final drain. -/
  | checkingDrain
  /-- Receiving: the worker will not come back, discarding what is queued. -/
  | sweeping (sweep : Sweep)
  /-- Receiving: about to see whether a batch is full. -/
  | measuring
  /-- Receiving: a batch is full, about to signal it. -/
  | signaling
  /-- Receiving: the signal is new, about to wake the worker. -/
  | notifying
  /-- Flushing: about to see whether shutdown was requested. -/
  | flushing (limit : Duration)
  /-- Flushing: about to register the request. -/
  | requestingFlush (limit : Duration)
  /-- Flushing: waits for the answer to its request. -/
  | awaitingFlush (number : Nat) (limit : Duration) (notified : Bool)
  /-- Dropping the processor: about to see whether shutdown was requested. -/
  | dropping
  /-- Shutting down: about to register the request. `implied` marks a drop. -/
  | closing (limit : Duration) (implied : Bool)
  /-- Shutting down: waits for the worker's answer. -/
  | awaitingShutdown (limit : Duration) (implied notified : Bool)
  /-- Shutting down: about to see whether some other thread waits for the worker's end. -/
  | claiming (result : ProcessorResult) (implied : Bool)
  /-- Shutting down: waits for the worker's end. -/
  | joining (result : ProcessorResult) (implied : Bool)
  /-- Shutting down: about to return. -/
  | leaving (result : ProcessorResult) (implied : Bool)
  /-- The call has returned. -/
  | done (result : Option ProcessorResult)

/-- What the worker exports for. -/
inductive Batch.Errand where
  /-- The timer, or a full batch. -/
  | routine
  /-- The requests to flush up to a number. -/
  | flush (number : Nat) (limit : Duration)
  /-- The final drain. -/
  | shutdown (limit : Duration)

/-- A pass of the worker over the queue. -/
structure Batch.Pass where
  errand : Batch.Errand
  /-- How many of the records that were queued at the start are left; `none` for a pass that
  goes on until the queue is empty. -/
  remaining : Option Nat
  /-- The first failure of the pass. -/
  result : ExportResult

/-- Where the worker is. -/
inductive Batch.Worker (α : Type) where
  /-- About to look for something to do. -/
  | deciding
  /-- Waits for something to do. -/
  | asleep (notified : Bool)
  /-- About to clear the signal of a full batch. -/
  | rearming (errand : Errand)
  /-- About to read how many records are queued. -/
  | measuring (errand : Errand)
  /-- Taking records out of the queue; those taken for the next batch so far. -/
  | collecting (pass : Pass) (batch : List α)
  /-- The exporter has a batch. -/
  | sending (pass : Pass) (batch : List α)
  /-- About to count the records of an accepted batch. -/
  | countingExported (pass : Pass) (size : Nat)
  /-- About to count an accepted batch. -/
  | countingBatch (pass : Pass) (size : Nat)
  /-- About to count a failed batch. -/
  | countingFailure (pass : Pass) (size : Nat) (e : ExportError)
  /-- About to count the records of a failed batch. -/
  | countingFailed (pass : Pass) (size : Nat) (e : ExportError)
  /-- Asks for the exporter's name, to report a failed batch. -/
  | naming (pass : Pass) (size : Nat) (e : ExportError)
  /-- The exporter flushes. -/
  | flushing (number : Nat) (limit : Duration) (result : ExportResult)
  /-- About to answer the requests to flush up to a number. -/
  | publishing (number : Nat) (result : ProcessorResult)
  /-- About to wake the callers that wait. -/
  | announcing
  /-- The final drain is over, about to say so. -/
  | sealing (limit : Duration) (result : ExportResult)
  /-- Discarding what came behind the final drain. -/
  | sweeping (sweep : Sweep) (limit : Duration) (result : ExportResult)
  /-- The exporter shuts down. -/
  | closing (limit : Duration) (result : ExportResult)
  /-- Asks for the exporter's name, to report that its shutdown failed. -/
  | namingClose (result : ExportResult) (e : ExportError)
  /-- About to answer all requests. -/
  | concluding (result closeResult : ExportResult)
  /-- About to wake the callers that wait, for the last time. -/
  | announcingEnd
  /-- About to report the end. -/
  | reporting
  /-- A panic passes through: about to answer all requests. -/
  | unwinding
  /-- A panic passes through: about to say that there will be no more drain. -/
  | unwindSealing
  /-- A panic passes through: discarding what is queued. -/
  | unwindSweeping (sweep : Sweep)
  /-- A panic passes through: about to wake the callers that wait. -/
  | unwindAnnouncing
  /-- The worker's thread has ended. -/
  | stopped (panicked : Bool)

/-! ## The whole -/

/-- A batch processor with its worker and the calls on it, numbered from zero. -/
structure Batch (α : Type) where
  name : String
  config : BatchConfig
  queue : Queue α
  control : Batch.Control
  /-- Whether shutdown was requested, for readers without the lock. -/
  isShutdown : Bool
  /-- Whether a full batch was signalled and the worker has not yet started on it. -/
  exportSignaled : Bool
  /-- Whether the final drain is over. -/
  isDrained : Bool
  /-- Whether a loss was reported. -/
  overflowWarned : Bool
  counters : Counters
  worker : Batch.Worker α
  /-- Whether some caller has taken it on to wait for the worker's end. -/
  workerClaimed : Bool
  callers : List (Batch.Caller α)

/-- What a step shows to the outside. -/
inductive Batch.Note (α : Type) where
  /-- A report. -/
  | event (e : Event)
  /-- The queue has accepted a record. -/
  | accepted (a : α)
  /-- A record was let go of without an export: refused, evicted or discarded at the end. -/
  | lost (a : α)
  /-- A call on the exporter begins. -/
  | calls (request : Request α)
  /-- The call on the exporter has ended. -/
  | ended (o : Outcome)

namespace Batch

variable {α : Type}

/-! ## The start -/

/-- A processor whose worker has just been started. -/
def start (name : String) (config : BatchConfig) : Batch α where
  name := name
  config := config
  queue := Queue.empty config.maxQueueSize.toNat
  control :=
    { flushRequested := 0
      flushCompleted := 0
      flushResult := .ok ()
      flushLimit := config.shutdownTimeout
      shutdownRequested := false
      shutdownLimit := config.shutdownTimeout
      shutdownResult := none }
  isShutdown := false
  exportSignaled := false
  isDrained := false
  overflowWarned := false
  counters := Counters.zero
  worker := .deciding
  workerClaimed := false
  callers := []

/-- The name of a processor that is given none. -/
def defaultName : String := "telemetry"

/-- The name of the worker's thread. -/
def threadName (name : String) : String :=
  name ++ "-batch-worker"

/-- Whether a thread can have a name; a processor whose worker cannot panics when it starts. -/
def isThreadName (name : String) : Bool :=
  !name.contains '\x00'

/-- The processor in diagnostics. -/
def debug (s : Batch α) : String :=
  Text.braced "BatchProcessor"
    [("name", Text.quoted s.name), ("config", s.config.debug),
     ("queue_len", Nat.repr s.queue.length)]

/-! ## Reports -/

/-- The field that names the processor. -/
def nameField (name : String) : String × Event.Field :=
  ("processor", .text name)

/-- The report that a processor has started. -/
def startedEvent (name : String) (config : BatchConfig) : Event where
  level := .debug
  message := "batch processor started"
  fields :=
    [nameField name,
     ("max_queue_size", .number config.maxQueueSize.toNat),
     ("max_export_batch_size", .number config.maxBatchSize.toNat),
     ("scheduled_delay_ms", .number config.scheduledDelay.millis.toNat)]

/-- A report about the processor alone. -/
def plainEvent (s : Batch α) (level : Event.Level) (message : String) : Event :=
  ⟨level, message, [nameField s.name]⟩

/-- The report of the first lost record. -/
def overflowEvent (s : Batch α) : Event where
  level := .warn
  message := "queue is full; dropping records until the worker catches up"
  fields := [nameField s.name, ("max_queue_size", .number s.config.maxQueueSize.toNat)]

/-- The report of a caller that no longer waits for the worker's end. -/
def lateEvent (s : Batch α) (limit : Duration) : Event where
  level := .warn
  message := "shutdown timed out; worker keeps draining in the background"
  fields := [nameField s.name, ("timeout_ms", .number limit.millis.toNat)]

/-- The report of a drop whose shutdown failed. -/
def dropEvent (s : Batch α) (e : ProcessorError) : Event where
  level := .warn
  message := "implicit shutdown on drop failed"
  fields := [nameField s.name, ("error", .text e.message)]

/-- The report of a failed batch. -/
def failureEvent (s : Batch α) (exporter : String) (size : Nat) (e : ExportError) : Event where
  level := .warn
  message := "export failed; dropping batch"
  fields :=
    [nameField s.name, ("exporter", .text exporter), ("records", .number size),
     ("error", .text e.message)]

/-- The report that the exporter's shutdown failed. -/
def closeEvent (s : Batch α) (exporter : String) (e : ExportError) : Event where
  level := .warn
  message := "exporter shutdown failed"
  fields :=
    [nameField s.name, ("exporter", .text exporter),
     ("error", .text (ProcessorError.exportFailed e).message)]

end Batch

end Telemetry
