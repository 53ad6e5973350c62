import Telemetry.Error

set_option autoImplicit false

/-! # Settings of a batch processor

A configuration is made by a builder, which checks it once. A processor never checks it again, so
the facts it relies on are part of the type. -/

namespace Telemetry

/-- What a processor carries. -/
inductive Signal where
  | spans
  | logs
deriving DecidableEq

/-- Checked settings of a batch processor. -/
structure BatchConfig where
  /-- How many records the queue holds. -/
  maxQueueSize : UInt64
  /-- The longest wait between two exports on the timer. -/
  scheduledDelay : Duration
  /-- How many records one export call gets at most. -/
  maxBatchSize : UInt64
  overflow : OverflowPolicy
  /-- The limit on the shutdown that is implied when a processor is dropped. -/
  shutdownTimeout : Duration
  batchSize_pos : 0 < maxBatchSize
  batchSize_le : maxBatchSize ≤ maxQueueSize
deriving DecidableEq

namespace BatchConfig

/-- The queue size where none is given. -/
def defaultQueueSize : UInt64 := 2048

/-- The batch size where none is given. -/
def defaultBatchSize : UInt64 := 512

/-- The limit on an implied shutdown where none is given. -/
def defaultShutdownTimeout : Duration := Duration.ofSecs 5

/-- The delay of a signal where none is given: log entries wait one second, spans five. -/
def defaultDelay : Signal → Duration
  | .logs => Duration.ofMillis 1000
  | .spans => Duration.ofMillis 5000

/-- The settings where none are given. -/
def default : BatchConfig where
  maxQueueSize := defaultQueueSize
  scheduledDelay := defaultDelay .logs
  maxBatchSize := defaultBatchSize
  overflow := .dropNewest
  shutdownTimeout := defaultShutdownTimeout
  batchSize_pos := by decide
  batchSize_le := by decide

/-- A small queue with a short delay. -/
def lowLatency : BatchConfig :=
  { default with
    maxQueueSize := 256
    scheduledDelay := Duration.ofMillis 50
    maxBatchSize := 64
    batchSize_pos := by decide
    batchSize_le := by decide }

/-- A long queue with large batches. -/
def highThroughput : BatchConfig :=
  { default with
    maxQueueSize := 16384
    scheduledDelay := Duration.ofMillis 2000
    maxBatchSize := 2048
    batchSize_pos := by decide
    batchSize_le := by decide }

/-- The settings in diagnostics. -/
def debug (c : BatchConfig) : String :=
  Text.braced "BatchConfig"
    [("max_queue_size", Nat.repr c.maxQueueSize.toNat),
     ("scheduled_delay", c.scheduledDelay.text),
     ("max_export_batch_size", Nat.repr c.maxBatchSize.toNat),
     ("overflow", c.overflow.name),
     ("shutdown_timeout", c.shutdownTimeout.text)]

end BatchConfig

namespace Signal

/-- The name of a signal in diagnostics. -/
def debug : Signal → String
  | .spans => "Spans"
  | .logs => "Logs"

/-- The name of a processor that is set up from the environment. -/
def processorName : Signal → String
  | .spans => "spans"
  | .logs => "logs"

/-- What the names of a signal's environment variables begin with. -/
def variableStem : Signal → String
  | .spans => "OTEL_BSP"
  | .logs => "OTEL_BLRP"

/-- The variable with a signal's queue size. -/
def queueSizeVariable (s : Signal) : String :=
  s.variableStem ++ "_MAX_QUEUE_SIZE"

/-- The variable with a signal's delay in milliseconds. -/
def delayVariable (s : Signal) : String :=
  s.variableStem ++ "_SCHEDULE_DELAY"

/-- The variable with a signal's batch size. -/
def batchSizeVariable (s : Signal) : String :=
  s.variableStem ++ "_MAX_EXPORT_BATCH_SIZE"

end Signal

end Telemetry
