import NodeProvisioning.Backend
import NodeProvisioning.CloudProvider
import NodeProvisioning.Command
import NodeProvisioning.CommandError
import NodeProvisioning.CommandLine.Invocation
import NodeProvisioning.CommandLine.Options
import NodeProvisioning.CommandLine.Values
import NodeProvisioning.Condition
import NodeProvisioning.Decimal.Binary64
import NodeProvisioning.Decimal.Power
import NodeProvisioning.Digest.Sha256
import NodeProvisioning.Fault
import NodeProvisioning.Http.Address
import NodeProvisioning.Http.ApiClient
import NodeProvisioning.Http.Message
import NodeProvisioning.Http.Scripted
import NodeProvisioning.Http.Status
import NodeProvisioning.Json.Decoding
import NodeProvisioning.Json.Encoding
import NodeProvisioning.Json.Reading
import NodeProvisioning.Json.Value
import NodeProvisioning.Json.Writing
import NodeProvisioning.Kubeconfig
import NodeProvisioning.Logging
import NodeProvisioning.Main
import NodeProvisioning.Manifest
import NodeProvisioning.Metadata
import NodeProvisioning.NodeClaim.Basic
import NodeProvisioning.NodeClaim.Codec
import NodeProvisioning.NodeClaim.Key
import NodeProvisioning.NodeClaim.State
import NodeProvisioning.Proofs.Classification
import NodeProvisioning.Proofs.Codec.Basic
import NodeProvisioning.Proofs.Codec.Document
import NodeProvisioning.Proofs.Codec.Meaning
import NodeProvisioning.Proofs.Codec.Metadata
import NodeProvisioning.Proofs.Codec.NodeClaim
import NodeProvisioning.Proofs.CommandLine.Durations
import NodeProvisioning.Proofs.CommandLine.Labels
import NodeProvisioning.Proofs.CommandLine.Timeouts
import NodeProvisioning.Proofs.Constraints
import NodeProvisioning.Proofs.Fleet.Basic
import NodeProvisioning.Proofs.Fleet.Following
import NodeProvisioning.Proofs.Fleet.Safety
import NodeProvisioning.Proofs.Identity
import NodeProvisioning.Proofs.Provisioning.Attribution
import NodeProvisioning.Proofs.Provisioning.Cancellation
import NodeProvisioning.Proofs.Provisioning.Convergence
import NodeProvisioning.Proofs.Provisioning.Course
import NodeProvisioning.Proofs.Provisioning.Deadline
import NodeProvisioning.Proofs.Provisioning.Keeping
import NodeProvisioning.Proofs.Provisioning.Listing
import NodeProvisioning.Proofs.Provisioning.Lockstep
import NodeProvisioning.Proofs.Provisioning.Overflow
import NodeProvisioning.Proofs.Provisioning.Triage
import NodeProvisioning.Proofs.Rendering
import NodeProvisioning.Proofs.Requirements
import NodeProvisioning.Proofs.Retry.Backoff
import NodeProvisioning.Proofs.Retry.Reading
import NodeProvisioning.Proofs.Retry.Stopping
import NodeProvisioning.Proofs.Rounds.Ending
import NodeProvisioning.Proofs.Rounds.Failure
import NodeProvisioning.Proofs.Rounds.Frame
import NodeProvisioning.Proofs.Rounds.Keeping
import NodeProvisioning.Proofs.Rounds.Order
import NodeProvisioning.Proofs.Rounds.Promptness
import NodeProvisioning.Proofs.Rounds.Readiness
import NodeProvisioning.Proofs.Rounds.Scripted
import NodeProvisioning.Proofs.Rounds.Standing
import NodeProvisioning.Proofs.Rounds.Tally
import NodeProvisioning.Proofs.Rounds.Termination
import NodeProvisioning.Proofs.Run.Alarm
import NodeProvisioning.Proofs.Run.Answering
import NodeProvisioning.Proofs.Run.Cancellation
import NodeProvisioning.Proofs.Run.Contract
import NodeProvisioning.Proofs.Run.History
import NodeProvisioning.Proofs.Run.Lockstep
import NodeProvisioning.Proofs.Run.Parallel
import NodeProvisioning.Proofs.Run.Triple
import NodeProvisioning.Proofs.Selection
import NodeProvisioning.Proofs.Store.Ledger
import NodeProvisioning.Proofs.Store.Script
import NodeProvisioning.Proofs.Store.Walk
import NodeProvisioning.Proofs.Submission.Passage
import NodeProvisioning.Proofs.Submission.Reporting
import NodeProvisioning.Proofs.Submission.Resubmission
import NodeProvisioning.Proofs.Submission.Stopping
import NodeProvisioning.Proofs.Time.Calendar
import NodeProvisioning.Proofs.Time.Timestamp
import NodeProvisioning.Proofs.Transience
import NodeProvisioning.Proofs.Trimming
import NodeProvisioning.Proofs.Validation
import NodeProvisioning.Proofs.Yaml.Block
import NodeProvisioning.Proofs.Yaml.Scalar
import NodeProvisioning.Proofs.Yaml.Text
import NodeProvisioning.ProvisionError
import NodeProvisioning.RequestError
import NodeProvisioning.Retry
import NodeProvisioning.Run.Basic
import NodeProvisioning.Run.Provisioning
import NodeProvisioning.Run.Rounds
import NodeProvisioning.Run.Submission
import NodeProvisioning.Selector
import NodeProvisioning.SortedMap
import NodeProvisioning.Store.Basic
import NodeProvisioning.Store.Interference
import NodeProvisioning.Text.Blank
import NodeProvisioning.Text.CodePoints
import NodeProvisioning.Text.Combining
import NodeProvisioning.Text.Hex
import NodeProvisioning.Text.Quoted
import NodeProvisioning.Text.Unprintable
import NodeProvisioning.Time.Duration
import NodeProvisioning.Time.Timestamp
import NodeProvisioning.WellKnown
import NodeProvisioning.Workload
import NodeProvisioning.Yaml.Block
import NodeProvisioning.Yaml.Flow
import NodeProvisioning.Yaml.Line
import NodeProvisioning.Yaml.Node
import NodeProvisioning.Yaml.Reading
import NodeProvisioning.Yaml.Resolution
import NodeProvisioning.Yaml.Scalar
