import ClusterTick.Model.Node
import ClusterTick.Rules.Verdict
import ClusterTick.Tick.PreparedTask

/-!
# Partitions

The share of a tick that belongs to one group: its nodes, and its tasks with the
answers of the rules.  Partitions of different groups are matched without
regard to each other.
-/

namespace ClusterTick

/-- A task with the answers of the rules. -/
structure Candidate where
  prepared : PreparedTask
  verdict : TaskVerdict
  deriving DecidableEq, Repr, Inhabited

/-- The two passes of a tick.  Validation tasks are matched first. -/
inductive MatchPass where
  | validation
  | training
  deriving DecidableEq, Repr

/-- One group's share of a pass. -/
structure Partition where
  group : GroupName
  /-- False when nothing may be preempted. -/
  valid : Bool
  /-- The active nodes of the group. -/
  nodes : List Node
  candidates : List Candidate
  deriving DecidableEq, Repr, Inhabited

/-- What a pass makes of a partition. -/
structure MatchOutcome where
  /-- The nodes with their occupancy after the pass. -/
  nodes : List Node := []
  /-- The decided tasks in the order of the decisions. -/
  tasks : List Task := []
  /-- Tasks that need more nodes than the group has. -/
  infeasible : List TaskId := []
  deriving DecidableEq, Repr, Inhabited

namespace MatchPass

/-- The tasks that a pass decides on. -/
def includes : MatchPass → Task → Bool
  | validation, task => task.isValidation
  | training, task => !task.isValidation

end MatchPass

namespace Candidate

def id (candidate : Candidate) : TaskId := candidate.prepared.id

def task (candidate : Candidate) : Task := candidate.prepared.task

/-- Whether a queued task may be started: it is eligible, and within quota. -/
def admission (candidate : Candidate) : Check :=
  candidate.verdict.waiting.andThen candidate.verdict.withinLimits

/-- The order in which waiting tasks are placed: by urgency, then the oldest
first, then by id. -/
def compareQueue (left right : Candidate) : Ordering :=
  ((left.prepared.compareRank right.prepared).then
    (compare left.task.createdSeconds right.task.createdSeconds)).then
    (compare left.id right.id)

end Candidate

end ClusterTick
