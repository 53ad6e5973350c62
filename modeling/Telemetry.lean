import Telemetry.Config.Builder
import Telemetry.Decimal.Reading
import Telemetry.Export.Blocking
import Telemetry.Export.Lines
import Telemetry.Pipeline.Trial
import Telemetry.Proofs.Batch.Accounting
import Telemetry.Proofs.Batch.Flush
import Telemetry.Proofs.Ring.Refinement
import Telemetry.Proofs.Ring.Exchange
import Telemetry.Ring.Operations
import Telemetry.Proofs.Batch.Course
import Telemetry.Proofs.Batch.Conclusion
import Telemetry.Proofs.Batch.Discarded
import Telemetry.Proofs.Batch.Finality
import Telemetry.Proofs.Batch.Termination
import Telemetry.Proofs.Ring.Linear
import Telemetry.Proofs.Batch.Outcome
import Telemetry.Proofs.Batch.Wakeup
import Telemetry.Proofs.Batch.Healthy
import Telemetry.Proofs.Batch.Keeping
import Telemetry.Proofs.Simple.Moves
import Telemetry.Proofs.Simple.Shutdown
import Telemetry.Proofs.Agreement
import Telemetry.Proofs.Decimal.Range
import Telemetry.Proofs.Json.Floats
import Telemetry.Proofs.Json.Objects
import Telemetry.Proofs.Record.RoundTrip
import Telemetry.Proofs.Ring.Answers
import Telemetry.Proofs.Batch.Chunks
import Telemetry.Proofs.Batch.Twins
import Telemetry.Proofs.Ring.Reentry
import Telemetry.Proofs.Ring.Custody
import Telemetry.Proofs.Ring.Balance
import Telemetry.Proofs.Batch.Received
import Telemetry.Proofs.Ring.Miscounts
import Telemetry.Proofs.Ring.Evictions
import Telemetry.Proofs.Export.Latch
import Telemetry.Proofs.Config.Settings
import Telemetry.Proofs.Export.Framing
import Telemetry.Proofs.Record.Undecodable
import Telemetry.Proofs.Pipeline.Isolation
import Telemetry.Proofs.Export.Failures
import Telemetry.Proofs.Export.Exhausted
import Telemetry.Proofs.Ring.Words
import Telemetry.Proofs.Decimal.Binades
import Telemetry.Proofs.Export.Backoff
import Telemetry.Proofs.Ring.Lap
import Telemetry.Proofs.Batch.Holding
import Telemetry.Proofs.Batch.Numbers
