import FederationObservatory.Analysis.Capabilities
import FederationObservatory.Analysis.Compatibility
import FederationObservatory.Analysis.Drift
import FederationObservatory.Analysis.Fragmentation
import FederationObservatory.Analysis.Inputs
import FederationObservatory.Analysis.Migration
import FederationObservatory.Analysis.Mismatch
import FederationObservatory.Analysis.Placement
import FederationObservatory.Analysis.Pools
import FederationObservatory.Analysis.Portability
import FederationObservatory.Analysis.Proofs.Collections
import FederationObservatory.Analysis.Proofs.Dimensions
import FederationObservatory.Analysis.Proofs.Domains
import FederationObservatory.Analysis.Proofs.Drift
import FederationObservatory.Analysis.Proofs.Explanations
import FederationObservatory.Analysis.Proofs.Formats
import FederationObservatory.Analysis.Proofs.Fragmentation
import FederationObservatory.Analysis.Proofs.Membership
import FederationObservatory.Analysis.Proofs.Merging
import FederationObservatory.Analysis.Proofs.Mismatch
import FederationObservatory.Analysis.Proofs.Optional
import FederationObservatory.Analysis.Proofs.Partition
import FederationObservatory.Analysis.Proofs.Placeable
import FederationObservatory.Analysis.Proofs.Pools
import FederationObservatory.Analysis.Proofs.Precedence
import FederationObservatory.Analysis.Proofs.Published
import FederationObservatory.Analysis.Proofs.Revalidation
import FederationObservatory.Analysis.Proofs.Rows
import FederationObservatory.Analysis.Proofs.Scope
import FederationObservatory.Analysis.Proofs.Stranded
import FederationObservatory.Analysis.Proofs.Strength
import FederationObservatory.Analysis.Proofs.Totals
import FederationObservatory.Analysis.Proofs.Verdict
import FederationObservatory.Analysis.Stranded
import FederationObservatory.Coordinator.Dispatch
import FederationObservatory.Coordinator.Lifecycle
import FederationObservatory.Coordinator.Proofs.Answers
import FederationObservatory.Coordinator.Proofs.Dispatch
import FederationObservatory.Coordinator.Proofs.Progress
import FederationObservatory.Coordinator.Proofs.Shutdown
import FederationObservatory.Coordinator.Proofs.WorkQueue
import FederationObservatory.Coordinator.Queue
import FederationObservatory.Foundation.Bounds
import FederationObservatory.Foundation.Codec
import FederationObservatory.Foundation.Evidence
import FederationObservatory.Foundation.Ids
import FederationObservatory.Foundation.Percent
import FederationObservatory.Foundation.Proofs.Percent
import FederationObservatory.Foundation.Proofs.Timestamps
import FederationObservatory.Foundation.Timestamps
import FederationObservatory.Misc.Arrivals
import FederationObservatory.Misc.BoundedCollections
import FederationObservatory.Misc.ByteCodec
import FederationObservatory.Misc.Calendar
import FederationObservatory.Misc.Decimal
import FederationObservatory.Misc.FindOrAdd
import FederationObservatory.Misc.Grouping
import FederationObservatory.Misc.LexicographicStreams
import FederationObservatory.Misc.LongArithmetic
import FederationObservatory.Misc.Loops
import FederationObservatory.Misc.Runs
import FederationObservatory.Misc.Sorting
import FederationObservatory.Misc.Tables
import FederationObservatory.Misc.Text
import FederationObservatory.Misc.Threads
import FederationObservatory.Misc.Weakest
import FederationObservatory.Model.Capability
import FederationObservatory.Model.Capacity
import FederationObservatory.Model.Observations
import FederationObservatory.Model.Proofs.Integers
import FederationObservatory.Model.Proofs.Versions
import FederationObservatory.Model.Records
import FederationObservatory.Model.Requirements
import FederationObservatory.Model.Versions
import FederationObservatory.Observatory.Authority
import FederationObservatory.Observatory.Checkpoints
import FederationObservatory.Observatory.Durable
import FederationObservatory.Observatory.Operations
import FederationObservatory.Observatory.Proofs.Acceptance
import FederationObservatory.Observatory.Proofs.AtMostOnce
import FederationObservatory.Observatory.Proofs.Authority
import FederationObservatory.Observatory.Proofs.Checkpoints
import FederationObservatory.Observatory.Proofs.Clusters
import FederationObservatory.Observatory.Proofs.Epochs
import FederationObservatory.Observatory.Proofs.Fencing
import FederationObservatory.Observatory.Proofs.Generations
import FederationObservatory.Observatory.Proofs.Incarnations
import FederationObservatory.Observatory.Proofs.Keys
import FederationObservatory.Observatory.Proofs.LatestPlacement
import FederationObservatory.Observatory.Proofs.Limits
import FederationObservatory.Observatory.Proofs.Liveness
import FederationObservatory.Observatory.Proofs.Migrations
import FederationObservatory.Observatory.Proofs.Newest
import FederationObservatory.Observatory.Proofs.Publishers
import FederationObservatory.Observatory.Proofs.Records
import FederationObservatory.Observatory.Proofs.References
import FederationObservatory.Observatory.Proofs.Requests
import FederationObservatory.Observatory.Proofs.Restart
import FederationObservatory.Observatory.Proofs.Restore
import FederationObservatory.Observatory.Proofs.Retirement
import FederationObservatory.Observatory.Proofs.Retry
import FederationObservatory.Observatory.Proofs.SaveLoad
import FederationObservatory.Observatory.Proofs.Scoping
import FederationObservatory.Observatory.Proofs.Sequences
import FederationObservatory.Observatory.Proofs.Settlement
import FederationObservatory.Observatory.Proofs.Snapshots
import FederationObservatory.Observatory.Proofs.Stages
import FederationObservatory.Observatory.Proofs.Supersession
import FederationObservatory.Observatory.Proofs.Validation
import FederationObservatory.Observatory.Proofs.Writes
import FederationObservatory.Observatory.Publication
import FederationObservatory.Observatory.Queries
import FederationObservatory.Observatory.Registration
import FederationObservatory.Observatory.State
import FederationObservatory.Protocol.Frame
import FederationObservatory.Protocol.FrameReader
import FederationObservatory.Protocol.Messages
import FederationObservatory.RecordsCodec.Capabilities
import FederationObservatory.RecordsCodec.Decode
import FederationObservatory.RecordsCodec.Encode
import FederationObservatory.RecordsCodec.Fields
import FederationObservatory.RecordsCodec.Kinds
import FederationObservatory.RecordsCodec.RoundTrip
import FederationObservatory.RecordsCodec.Transfer
import FederationObservatory.StateStore.DurableState
import FederationObservatory.StateStore.Image
import FederationObservatory.StateStore.RoundTrip
import FederationObservatory.Protocol.Proofs.RoundTrip
