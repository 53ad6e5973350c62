import Telemetry.Duration
import Telemetry.Ring.Config
import Telemetry.Text.Quoted

set_option autoImplicit false

/-! # Errors

The causes of failure of an export, of a processor call and of building a processor, each with
its message, its form in diagnostics and the cause behind it. -/

namespace Telemetry

/-! ## Exports -/

/-- Why an exporter call failed. -/
inductive ExportError where
  /-- The data could not be delivered. -/
  | transport (reason : String)
  /-- The data could not be written in the exporter's format. -/
  | serialization (reason : String)
  /-- Every attempt failed. -/
  | retriesExhausted (attempts : UInt32)
  | timeout
  /-- The exporter was shut down before. -/
  | shutdown
  /-- The exporter panicked. -/
  | panicked (reason : String)
deriving DecidableEq

/-- The answer of an exporter call. -/
abbrev ExportResult := Except ExportError Unit

namespace ExportError

/-- The message of an error. -/
def message : ExportError → String
  | .transport reason => "transport error: " ++ reason
  | .serialization reason => "serialization error: " ++ reason
  | .retriesExhausted n =>
    "all retry attempts exhausted after " ++ Nat.repr n.toNat ++ " tries"
  | .timeout => "export operation timed out"
  | .shutdown => "exporter is shut down"
  | .panicked reason => "exporter panicked: " ++ reason

/-- The name of the kind of error. -/
def kindName : ExportError → String
  | .transport _ => "Transport"
  | .serialization _ => "Serialization"
  | .retriesExhausted _ => "RetriesExhausted"
  | .timeout => "Timeout"
  | .shutdown => "Shutdown"
  | .panicked _ => "Panicked"

/-- The error in diagnostics. -/
def debug (e : ExportError) : String :=
  match e with
  | .transport reason => Text.applied e.kindName [Text.quoted reason]
  | .serialization reason => Text.applied e.kindName [Text.quoted reason]
  | .retriesExhausted n => Text.braced e.kindName [("attempts", Nat.repr n.toNat)]
  | .timeout => e.kindName
  | .shutdown => e.kindName
  | .panicked reason => Text.applied e.kindName [Text.quoted reason]

end ExportError

/-! ## Processors -/

/-- Why a processor call failed. -/
inductive ProcessorError where
  /-- The request was not finished in time. It stays pending. -/
  | timeout (limit : Duration)
  /-- Shutdown was requested before. -/
  | alreadyShutdown
  /-- The exporter reported a failure. -/
  | exportFailed (cause : ExportError)
  /-- The background worker is gone. -/
  | workerTerminated
deriving DecidableEq

/-- The answer of a processor call. -/
abbrev ProcessorResult := Except ProcessorError Unit

/-- An exporter's answer as a processor passes it on. -/
def ExportResult.toProcessor (r : ExportResult) : ProcessorResult :=
  r.mapError .exportFailed

namespace ProcessorError

/-- The message of an error. -/
def message : ProcessorError → String
  | .timeout limit => "operation timed out after " ++ limit.text
  | .alreadyShutdown => "processor is already shut down"
  | .exportFailed cause => "export failed: " ++ cause.message
  | .workerTerminated => "background worker terminated unexpectedly"

/-- The name of the kind of error. -/
def kindName : ProcessorError → String
  | .timeout _ => "Timeout"
  | .alreadyShutdown => "AlreadyShutdown"
  | .exportFailed _ => "Export"
  | .workerTerminated => "WorkerTerminated"

/-- The error in diagnostics. -/
def debug (e : ProcessorError) : String :=
  match e with
  | .timeout limit => Text.applied e.kindName [limit.text]
  | .alreadyShutdown => e.kindName
  | .exportFailed cause => Text.applied e.kindName [cause.debug]
  | .workerTerminated => e.kindName

/-- The message of the cause behind an error, if there is one. -/
def cause? : ProcessorError → Option String
  | .exportFailed cause => some cause.message
  | _ => none

end ProcessorError

/-! ## Building -/

/-- A setting that is refused. -/
inductive ConfigError where
  | zeroQueueSize
  | zeroScheduledDelay
  | zeroBatchSize
deriving DecidableEq

namespace ConfigError

/-- The message of an error. -/
def message : ConfigError → String
  | .zeroQueueSize => "max_queue_size must be at least 1"
  | .zeroScheduledDelay => "scheduled_delay must be greater than zero"
  | .zeroBatchSize => "max_export_batch_size must be at least 1"

/-- The error in diagnostics. -/
def debug : ConfigError → String
  | .zeroQueueSize => "ZeroQueueSize"
  | .zeroScheduledDelay => "ZeroScheduledDelay"
  | .zeroBatchSize => "ZeroBatchSize"

end ConfigError

/-- Why a processor could not be built. -/
inductive BuildError where
  | config (e : ConfigError)
  | ring (e : Ring.ConfigError)
  /-- The system did not start the worker's thread. -/
  | spawn (reason : String)
deriving DecidableEq

namespace BuildError

/-- The message of an error. -/
def message : BuildError → String
  | .config e => "invalid configuration: " ++ e.message
  | .ring e => "failed to allocate queue: " ++ e.message
  | .spawn reason => "failed to spawn worker thread: " ++ reason

/-- The name of the kind of error. -/
def kindName : BuildError → String
  | .config _ => "Config"
  | .ring _ => "Ring"
  | .spawn _ => "Spawn"

/-- The error in diagnostics. -/
def debug (e : BuildError) : String :=
  match e with
  | .config e' => Text.applied e.kindName [e'.debug]
  | .ring e' => Text.applied e.kindName [e'.debug]
  | .spawn reason =>
    Text.applied e.kindName
      [Text.braced "Custom" [("kind", "Other"), ("error", Text.quoted reason)]]

/-- The message of the cause behind an error. -/
def cause : BuildError → String
  | .config e => e.message
  | .ring e => e.message
  | .spawn reason => reason

end BuildError

/-! ## Full queues -/

/-- The message of a refusal by a full ring. -/
def Ring.fullMessage : String :=
  "ring buffer is full"

/-- A refusal by a full ring in diagnostics, which do not show the record. -/
def Ring.fullDebug : String :=
  "Full \x7b .. \x7d"

end Telemetry
