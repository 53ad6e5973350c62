import Telemetry.Proofs.Config.Variables

set_option autoImplicit false

/-! # Which settings decide a configuration

Each step in making a configuration gives a value to some of the fields, possibly to none. A field
ends up with the value that the last step gives it, wherever that step takes it from, and the
configuration follows from the fields alone: the first zero among them is refused, else the batch
is the smaller one of the two sizes. -/

namespace Telemetry

namespace BatchConfigBuilder

/-! ## What a step gives -/

/-- A field that starts with a value keeps it if no step gives it another one, and else has the
value that the last step gives which gives one. -/
inductive LastGiven {β : Type} (given : Setting → Option β) (start : β) : List Setting → β → Prop
  | kept {settings : List Setting} (silent : ∀ s ∈ settings, given s = none) :
      LastGiven given start settings start
  | given {before after : List Setting} {s : Setting} {x : β} (gives : given s = some x)
      (silent : ∀ t ∈ after, given t = none) : LastGiven given start (before ++ s :: after) x

section

variable {β : Type} {given : Setting → Option β} {start x y : β} {settings : List Setting}
  {s : Setting}

theorem LastGiven.gives (settings : List Setting) (h : given s = some y) :
    LastGiven given start (settings ++ [s]) y :=
  .given h (by simp)

end

/-- The zeros that are refused, each one only if none of those before it is there. -/
inductive FirstZero (b : BatchConfigBuilder) : ConfigError → Prop
  | queue (zero : b.maxQueueSize = 0) : FirstZero b .zeroQueueSize
  | delay (queue : b.maxQueueSize ≠ 0) (zero : b.scheduledDelay = Duration.zero) :
      FirstZero b .zeroScheduledDelay
  | batch (queue : b.maxQueueSize ≠ 0) (delay : b.scheduledDelay ≠ Duration.zero)
      (zero : b.maxBatchSize = 0) : FirstZero b .zeroBatchSize

section

variable {b : BatchConfigBuilder} {c : BatchConfig} {e : ConfigError} {events : List Event}

theorem isZero_iff (d : Duration) : d.isZero = true ↔ d = Duration.zero := by
  simp [Duration.isZero, Duration.zero, Duration.ext_iff]

theorem FirstZero.build (h : b.FirstZero e) : b.build = .error e := by
  cases h with
  | queue zero => simp [BatchConfigBuilder.build, zero]
  | delay queue zero => simp [BatchConfigBuilder.build, queue, (isZero_iff _).2 zero]
  | batch queue delay zero => simp [BatchConfigBuilder.build, queue, isZero_iff, delay, zero]

end

/-! ## All settings -/

/-- A value given later wins over a variable, and a variable without a number gives nothing. -/
example :
    let lookup : String → Option String := fun name =>
      if name = "OTEL_BLRP_MAX_QUEUE_SIZE" then some "4096"
      else if name = "OTEL_BLRP_SCHEDULE_DELAY" then some "I am not a number"
      else if name = "OTEL_BLRP_MAX_EXPORT_BATCH_SIZE" then some "\u00a0+16\n" else none
    let b := default.applyAll [.environment .logs lookup, .queueSize 64]
    b.maxQueueSize = 64 ∧ b.scheduledDelay = Duration.ofMillis 1000 ∧ b.maxBatchSize = 16 := by
  decide +kernel

end BatchConfigBuilder

end Telemetry
