import ClusterTick.Fixture.Change
import ClusterTick.Fixture.Draws
import ClusterTick.Fixture.Facts
import ClusterTick.Fixture.Generator
import ClusterTick.Fixture.Scenario
import ClusterTick.Fixture.Script
import ClusterTick.Hash.Sha256
import ClusterTick.Json.Basic
import ClusterTick.Json.Canonical
import ClusterTick.Json.Reader
import ClusterTick.Json.Record
import ClusterTick.Json.Shape
import ClusterTick.Main
import ClusterTick.Match.Partition
import ClusterTick.Match.Pass
import ClusterTick.Match.Placement
import ClusterTick.Match.Preemption
import ClusterTick.Match.State
import ClusterTick.Model.Assignment
import ClusterTick.Model.Identifier
import ClusterTick.Model.Intent
import ClusterTick.Model.Label
import ClusterTick.Model.Node
import ClusterTick.Model.PriorityTier
import ClusterTick.Model.Snapshot
import ClusterTick.Model.Task
import ClusterTick.Model.User
import ClusterTick.Numeric.Binary64
import ClusterTick.Numeric.Decimal
import ClusterTick.Numeric.RealText
import ClusterTick.Order.Merge
import ClusterTick.Order.OrderedMap
import ClusterTick.Proofs.Order.Merge
import ClusterTick.Quota.Key
import ClusterTick.Quota.Table
import ClusterTick.Replay.Arguments
import ClusterTick.Replay.Command
import ClusterTick.Replay.Report
import ClusterTick.Replay.Session
import ClusterTick.Rules.Denial
import ClusterTick.Rules.Eligibility
import ClusterTick.Rules.QuotaAdmission
import ClusterTick.Rules.Verdict
import ClusterTick.Storage.Assignments
import ClusterTick.Storage.FileSystem
import ClusterTick.Storage.FileTree
import ClusterTick.Storage.Snapshots
import ClusterTick.Text.CharClass
import ClusterTick.Text.CharWidth
import ClusterTick.Text.CodeRange
import ClusterTick.Text.Emoji
import ClusterTick.Text.Quoted
import ClusterTick.Text.Split
import ClusterTick.Text.Table
import ClusterTick.Text.Unsigned
import ClusterTick.Text.Width
import ClusterTick.Tick.FanOut
import ClusterTick.Tick.PreparedTask
import ClusterTick.Tick.Profile
import ClusterTick.Tick.Schedule
import ClusterTick.Tick.Timing
import ClusterTick.Tick.WorkingSet
import ClusterTick.Time.Calendar
import ClusterTick.Time.Instant
import ClusterTick.Time.Record
import ClusterTick.Worker.Checkpoint
import ClusterTick.Worker.Clock
import ClusterTick.Worker.Fault
import ClusterTick.Worker.Health
import ClusterTick.Worker.Memory
import ClusterTick.Worker.Settings
import ClusterTick.Worker.Worker
import ClusterTick.Proofs.Order.OrderedMap
import ClusterTick.Proofs.Tick.WorkingSet
import ClusterTick.Proofs.Rules.Eligibility
import ClusterTick.Proofs.Match.Placement
import ClusterTick.Proofs.Match.Preemption
import ClusterTick.Proofs.Match.Walk
import ClusterTick.Proofs.Match.Ruling
import ClusterTick.Proofs.Order.Sorting
import ClusterTick.Proofs.Tick.Phase
import ClusterTick.Proofs.Tick.Assembly
import ClusterTick.Proofs.Tick.Exclusivity
import ClusterTick.Proofs.Rules.QuotaAdmission
import ClusterTick.Proofs.Tick.QuotaSafety
import ClusterTick.Proofs.Tick.PreemptionSafety
import ClusterTick.Proofs.Match.Reach
import ClusterTick.Proofs.Tick.Waiting
import ClusterTick.Proofs.Tick.Revision
import ClusterTick.Proofs.Tick.Enactment
import ClusterTick.Proofs.Tick.Repair
import ClusterTick.Proofs.Match.Disguise
import ClusterTick.Proofs.Tick.Disguise
import ClusterTick.Proofs.Tick.Forgetting
import ClusterTick.Proofs.Tick.Settling
import ClusterTick.Proofs.Match.Handover
import ClusterTick.Proofs.Tick.Replay
import ClusterTick.Proofs.Tick.Coverage
import ClusterTick.Proofs.Tick.FanIn
import ClusterTick.Proofs.Worker.Attempt
import ClusterTick.Proofs.Worker.Service
import ClusterTick.Proofs.Worker.Ledger
import ClusterTick.Proofs.Worker.Retry
import ClusterTick.Proofs.Match.Overtaking
import ClusterTick.Proofs.Tick.Overtaking
import ClusterTick.Proofs.Rules.Answers
import ClusterTick.Proofs.Tick.Submission
import ClusterTick.Proofs.Tick.Isolation
import ClusterTick.Proofs.Match.Deference
import ClusterTick.Proofs.Tick.Deference
import ClusterTick.Proofs.Match.Feasibility
import ClusterTick.Proofs.Tick.Feasibility
import ClusterTick.Proofs.Match.Shuffle
import ClusterTick.Proofs.Tick.Rearrangement
import ClusterTick.Proofs.Tick.RowOrder
import ClusterTick.Proofs.Match.Restraint
import ClusterTick.Proofs.Tick.DryRun
import ClusterTick.Proofs.Tick.Attempts
import ClusterTick.Proofs.Tick.Completeness
import ClusterTick.Proofs.Tick.Permanence
import ClusterTick.Proofs.Tick.ChosenPriority
import ClusterTick.Proofs.Storage.FileSystem
import ClusterTick.Proofs.Storage.FileTree
import ClusterTick.Proofs.Storage.Publication
import ClusterTick.Proofs.Numeric.NumberText
import ClusterTick.Proofs.Json.Alike
import ClusterTick.Proofs.Json.StringText
import ClusterTick.Proofs.Json.CanonicalForm
import ClusterTick.Proofs.Json.FaithfulForm
import ClusterTick.Proofs.Json.DigestText
import ClusterTick.Proofs.Quota.Key
import ClusterTick.Proofs.Quota.Table
import ClusterTick.Proofs.Rules.DoubleBooking
import ClusterTick.Proofs.Tick.Conflicts
import ClusterTick.Proofs.Json.ReadBackForm
import ClusterTick.Proofs.Json.RoundTrip
import ClusterTick.Proofs.Rules.Scope
import ClusterTick.Proofs.Tick.Judgement
import ClusterTick.Proofs.Rules.Entitlement
import ClusterTick.Proofs.Match.Locality
import ClusterTick.Proofs.Tick.Cleanliness
import ClusterTick.Proofs.Fixture.Plan
import ClusterTick.Proofs.Fixture.Generator
import ClusterTick.Proofs.Worker.RecentTicks
import ClusterTick.Proofs.Order.MergePlaces
import ClusterTick.Proofs.Quota.Groups
import ClusterTick.Proofs.Tick.Visibility
import ClusterTick.Proofs.Match.Victims
import ClusterTick.Proofs.Tick.VictimSelection
