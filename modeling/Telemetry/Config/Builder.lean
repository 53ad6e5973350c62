import Telemetry.Config.Basic
import Telemetry.Decimal.Whole
import Telemetry.Event
import Telemetry.Text.Blank

set_option autoImplicit false

/-! # Building a configuration

A builder starts from defaults and takes settings one after the other; a later one overrides an
earlier one, whether it was given directly or looked up in the environment. A variable counts
only if its value, without white space around it, is a whole number of 64 bits. At the end zero
sizes and a zero delay are refused, and a batch that does not fit the queue is cut to its size. -/

namespace Telemetry

/-- Settings that are not yet checked. -/
structure BatchConfigBuilder where
  maxQueueSize : UInt64
  scheduledDelay : Duration
  maxBatchSize : UInt64
  overflow : OverflowPolicy
  shutdownTimeout : Duration

/-- One step in making a configuration. -/
inductive BatchConfigBuilder.Setting where
  | queueSize (n : UInt64)
  | delay (d : Duration)
  | batchSize (n : UInt64)
  | overflow (policy : OverflowPolicy)
  | shutdownTimeout (d : Duration)
  /-- Take over what a signal's variables say. -/
  | environment (signal : Signal) (lookup : String → Option String)

namespace BatchConfigBuilder

/-- A builder that starts from the given settings. -/
def ofConfig (c : BatchConfig) : BatchConfigBuilder :=
  ⟨c.maxQueueSize, c.scheduledDelay, c.maxBatchSize, c.overflow, c.shutdownTimeout⟩

/-- A builder that starts from the defaults. -/
def default : BatchConfigBuilder :=
  ofConfig BatchConfig.default

/-- A builder that starts from the defaults of a signal. -/
def forSignal (signal : Signal) : BatchConfigBuilder :=
  { default with scheduledDelay := BatchConfig.defaultDelay signal }

/-- The number in a variable, if there is one. -/
def readWord (lookup : String → Option String) (name : String) : Option UInt64 :=
  (lookup name).bind fun text => Decimal.word? (Text.trim text.toList)

/-- Takes over what a signal's variables say. -/
def withEnvironment (b : BatchConfigBuilder) (signal : Signal)
    (lookup : String → Option String) : BatchConfigBuilder :=
  { b with
    maxQueueSize := (readWord lookup signal.queueSizeVariable).getD b.maxQueueSize
    maxBatchSize := (readWord lookup signal.batchSizeVariable).getD b.maxBatchSize
    scheduledDelay :=
      ((readWord lookup signal.delayVariable).map Duration.ofMillis).getD b.scheduledDelay }

/-- Takes one step. -/
def apply (b : BatchConfigBuilder) : Setting → BatchConfigBuilder
  | .queueSize n => { b with maxQueueSize := n }
  | .delay d => { b with scheduledDelay := d }
  | .batchSize n => { b with maxBatchSize := n }
  | .overflow policy => { b with overflow := policy }
  | .shutdownTimeout d => { b with shutdownTimeout := d }
  | .environment signal lookup => b.withEnvironment signal lookup

/-- Takes the steps in order. -/
def applyAll (b : BatchConfigBuilder) (settings : List Setting) : BatchConfigBuilder :=
  settings.foldl apply b

/-- The report that a batch was cut to the queue's size. -/
def clampEvent (b : BatchConfigBuilder) : Event where
  level := .warn
  message := "max_export_batch_size exceeds max_queue_size; clamping"
  fields :=
    [("max_export_batch_size", .number b.maxBatchSize.toNat),
     ("max_queue_size", .number b.maxQueueSize.toNat)]

/-- Checks the settings. The answer is the configuration, with a report if the batch was cut. -/
def build (b : BatchConfigBuilder) : Except ConfigError (BatchConfig × List Event) :=
  if hq : b.maxQueueSize = 0 then .error .zeroQueueSize
  else if b.scheduledDelay.isZero then .error .zeroScheduledDelay
  else if hb : b.maxBatchSize = 0 then .error .zeroBatchSize
  else if hc : b.maxQueueSize < b.maxBatchSize then
    .ok ({ maxQueueSize := b.maxQueueSize
           scheduledDelay := b.scheduledDelay
           maxBatchSize := b.maxQueueSize
           overflow := b.overflow
           shutdownTimeout := b.shutdownTimeout
           batchSize_pos := UInt64.pos_iff_ne_zero.2 hq
           batchSize_le := UInt64.le_refl _ }, [b.clampEvent])
  else
    .ok ({ maxQueueSize := b.maxQueueSize
           scheduledDelay := b.scheduledDelay
           maxBatchSize := b.maxBatchSize
           overflow := b.overflow
           shutdownTimeout := b.shutdownTimeout
           batchSize_pos := UInt64.pos_iff_ne_zero.2 hb
           batchSize_le := UInt64.not_lt.1 hc }, [])

/-- The configuration that a signal's variables ask for. -/
def fromEnvironment (signal : Signal) (lookup : String → Option String) :
    Except ConfigError (BatchConfig × List Event) :=
  ((forSignal signal).withEnvironment signal lookup).build

end BatchConfigBuilder

end Telemetry
