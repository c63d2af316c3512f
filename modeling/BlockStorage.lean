import BlockStorage.Gateway.Scripted
import BlockStorage.Lifecycle
import BlockStorage.Log.Output
import BlockStorage.Metric.Exposition
import BlockStorage.Settings
import BlockStorage.Store.Consistency
import BlockStorage.Store.Contents
import BlockStorage.Store.Tenants
import BlockStorage.Timestamp.Span
import BlockStorage.Proofs.Leg
import BlockStorage.Proofs.Conduct
import BlockStorage.Proofs.Gateway.Resending
import BlockStorage.Proofs.Gateway.Mapping
import BlockStorage.Proofs.Lifecycle.Flows
import BlockStorage.Proofs.Lifecycle.Restraint
import BlockStorage.Proofs.Lifecycle.Sighting
import BlockStorage.Proofs.Lifecycle.Absence
import BlockStorage.Proofs.Lifecycle.Refusal
import BlockStorage.Proofs.Lifecycle.Admission
import BlockStorage.Proofs.Lifecycle.Outcomes
import BlockStorage.Proofs.Handle
import BlockStorage.Proofs.Lifecycle.Detach
import BlockStorage.Proofs.Lifecycle.Deletion
import BlockStorage.Proofs.Store.Change
import BlockStorage.Proofs.Store.Report
import BlockStorage.Proofs.Store.Consistency
import BlockStorage.Proofs.Store.Records
import BlockStorage.Proofs.Store.Failure
import BlockStorage.Proofs.Breaker.Shield
import BlockStorage.Proofs.Breaker.Counting
import BlockStorage.Proofs.Breaker.Probing
import BlockStorage.Proofs.Accord
import BlockStorage.Proofs.Store.Alike
import BlockStorage.Proofs.Store.Commute
import BlockStorage.Proofs.Store.Numbering
import BlockStorage.Proofs.Log.RateLimit
import BlockStorage.Proofs.Log.Waits
import BlockStorage.Proofs.Wait.Meaning
import BlockStorage.Proofs.Store.Undoing
import BlockStorage.Proofs.Wait.Recording
import BlockStorage.Proofs.Wait.Cancellation
import BlockStorage.Proofs.Retry.Overflow
import BlockStorage.Proofs.Breaker.Unnoticed
import BlockStorage.Proofs.Gateway.Paging
import BlockStorage.Proofs.Handle.Codec
import BlockStorage.Proofs.Handle.Zone
import BlockStorage.Proofs.Log.Memory
import BlockStorage.Proofs.Log.Key
import BlockStorage.Proofs.Lifecycle.Holding
import BlockStorage.Proofs.Lifecycle.Sizes
import BlockStorage.Proofs.Handle.Zone
