import ClusterTick.Model.PriorityTier
import ClusterTick.Model.Task

/-!
# Prepared tasks

A task row together with what a tick derives from the rest of the snapshot: the
priority that counts, and whether the row is the latest attempt of its chain.
`compareRank` is the order of urgency; unranked tasks come after ranked ones of
the same priority.
-/

namespace ClusterTick

/-- A task row with its derived columns. -/
structure PreparedTask where
  /-- The row, with its group made explicit. -/
  task : Task
  /-- The priority that counts for order, quota and preemption. -/
  effectivePriority : Int32
  /-- Whether the row is the latest attempt of its chain that is not
  finished. -/
  isChainHead : Bool
  deriving DecidableEq, Repr, Inhabited

namespace PreparedTask

def id (prepared : PreparedTask) : TaskId := prepared.task.id

def group (prepared : PreparedTask) : GroupName := prepared.task.group

/-- The tier whose quota the task uses. -/
def tier (prepared : PreparedTask) : PriorityTier :=
  .ofValue prepared.effectivePriority

/-- The custom rank as a number that grows with it, zero for a task without
one. -/
def rankKey (prepared : PreparedTask) : Nat :=
  match prepared.task.customRank with
  | some rank => rank.totalKey + 1
  | none => 0

/-- The order of urgency: greater priority first, then greater custom rank. -/
def compareRank (left right : PreparedTask) : Ordering :=
  (compare right.effectivePriority left.effectivePriority).then
    (compare right.rankKey left.rankKey)

/-- Whether a task is matched at all: it is scheduled, or it is queued and the
latest attempt of its chain. -/
def isMatchable (prepared : PreparedTask) : Bool :=
  prepared.task.isScheduled || (prepared.task.isQueued && prepared.isChainHead)

end PreparedTask

end ClusterTick
