import ClusterTick.Model.Snapshot
import ClusterTick.Order.Merge
import ClusterTick.Quota.Table
import ClusterTick.Tick.NodeClaims
import ClusterTick.Tick.PreparedTask

/-!
# The working set of a tick

A snapshot made consistent before anything is decided.  Rows are deduplicated,
empty group labels are filled in, and the occupancy of the nodes is rebuilt from
the scheduled tasks: a node belongs to the first scheduled task that lists it,
whatever its own row says.  Every other listing of the node is contested.
-/

namespace ClusterTick

/-- A user with resolved quota. -/
structure UserView where
  user : User
  quota : QuotaTable
  /-- How many nodes of a group the user can see, for groups with quota. -/
  visible : OrderedMap GroupName Nat
  deriving DecidableEq, Repr, Inhabited

/-- Irregularities of a snapshot. -/
structure WorkingSetStats where
  inactiveNodes : Nat := 0
  duplicateNodes : Nat := 0
  duplicateTasks : Nat := 0
  /-- Nodes whose row names a task that does not hold them. -/
  staleOccupancy : Nat := 0
  /-- Contested listings of nodes. -/
  doubleBooked : Nat := 0
  quota : QuotaStats := {}
  deriving DecidableEq, Repr, Inhabited

namespace WorkingSetStats

def json (stats : WorkingSetStats) : Json :=
  .object [
    ("inactive_nodes", .ofNat stats.inactiveNodes),
    ("duplicate_nodes", .ofNat stats.duplicateNodes),
    ("duplicate_tasks", .ofNat stats.duplicateTasks),
    ("stale_occupancy", .ofNat stats.staleOccupancy),
    ("double_booked", .ofNat stats.doubleBooked),
    ("quota", stats.quota.json)]

end WorkingSetStats

/-- What the rules and the matching read. -/
structure WorkingSet where
  seq : SnapshotSeq
  /-- False when nothing may be preempted. -/
  valid : Bool
  takenAt : Instant
  /-- The active nodes in the order of their names. -/
  nodes : List Node
  /-- The tasks in the order of the snapshot. -/
  tasks : List PreparedTask
  /-- The users by name. -/
  users : OrderedMap UserName UserView
  /-- The first contested listing of each scheduled task that has one. -/
  conflicts : OrderedMap TaskId NodeConflict
  stats : WorkingSetStats
  deriving DecidableEq, Repr, Inhabited

namespace UserView

/-- How many nodes of a group the user can see. -/
def visibleIn (view : UserView) (group : GroupName) : Nat :=
  (view.visible.get? group).getD 0

/-- Nodes that are in a group or belong to it. -/
def countVisible (nodes : List Node) (group : GroupName) : Nat :=
  (nodes.filter fun node =>
    node.group = group ∨ node.originGroup = group).length

/-- The view of a user among the owners of quota. -/
def resolve (nodes : List Node) (owners : OrderedMap UserName User)
    (user : User) : UserView :=
  let quota := QuotaTable.resolve owners user
  { user, quota
    visible :=
      OrderedMap.ofList
        (quota.groups.map fun group => (group, countVisible nodes group)) }

end UserView

namespace WorkingSet

/-- A node row with its groups made explicit. -/
def normalizeNode (defaultGroup : GroupName) (node : Node) : Node :=
  { node with
    group := node.group.orDefault defaultGroup
    originGroup := node.originGroup.orDefault defaultGroup }

/-- A task row with its group made explicit. -/
def normalizeTask (defaultGroup : GroupName) (task : Task) : Task :=
  { task with group := task.group.orDefault defaultGroup }

/-- The active nodes in the order of their names, each once, as their rows have
them. -/
def activeNodes (snapshot : Snapshot) (defaultGroup : GroupName) : List Node :=
  OrderedMap.lastRows Node.name
    ((snapshot.nodes.filter Node.active).map (normalizeNode defaultGroup))

/-- The task rows, each task once. -/
def distinctTasks (snapshot : Snapshot) (defaultGroup : GroupName) :
    List Task :=
  (keepFirst snapshot.tasks Task.id).items.map (normalizeTask defaultGroup)

/-- Whether a task is the latest attempt of its chain that is not finished. -/
def isHeadAmong (tasks : List Task) (task : Task) : Bool :=
  !task.isFinished &&
    tasks.all fun other =>
      other.isFinished || other.chainId ≠ task.chainId ||
        other.id.value ≤ task.id.value

/-- The priority that counts: external users do not choose one. -/
def effectivePriority (users : OrderedMap UserName UserView) (task : Task) :
    Int32 :=
  match users.get? task.userName with
  | some view => if view.user.isInternal then task.priority else autoPriority
  | none => task.priority

/-- The working set of a snapshot. -/
def ofSnapshot (snapshot : Snapshot) (defaultGroup : GroupName) : WorkingSet :=
  let reported := activeNodes snapshot defaultGroup
  let tasks := distinctTasks snapshot defaultGroup
  let claims := NodeClaims.ofTasks reported tasks
  let owners :=
    OrderedMap.ofList (snapshot.users.map fun user => (user.userName, user))
  let users := OrderedMap.ofList (owners.entries.map fun (name, user) =>
    (name, UserView.resolve claims.nodes owners user))
  let activeRows := (snapshot.nodes.filter Node.active).length
  { seq := snapshot.seq
    valid := snapshot.valid
    takenAt := snapshot.takenAt
    nodes := claims.nodes
    tasks := tasks.map fun task =>
      { task
        effectivePriority := effectivePriority users task
        isChainHead := isHeadAmong tasks task }
    users
    conflicts := claims.conflicts
    stats := {
      inactiveNodes := snapshot.nodes.length - activeRows
      duplicateNodes := activeRows - reported.length
      duplicateTasks := (keepFirst snapshot.tasks Task.id).duplicates
      staleOccupancy := (reported.filter fun node =>
        node.working.isSome ∧ node.working ≠ claims.occupant? node.name).length
      doubleBooked := claims.doubleBooked
      quota :=
        owners.values.foldl
          (fun stats user => stats + QuotaStats.ofQuota user.quota) {} } }

/-- The number of active nodes in a group. -/
def groupSize (set : WorkingSet) (group : GroupName) : Nat :=
  (set.nodes.filter fun node => node.group = group).length

/-- Every group with a node or a task, in order. -/
def groups (set : WorkingSet) : List GroupName :=
  sortedKeys (set.nodes.map Node.group ++ set.tasks.map PreparedTask.group)

/-- Every group and its size, in order. -/
def groupSizes (set : WorkingSet) : List (GroupName × Nat) :=
  set.groups.map fun group => (group, set.groupSize group)

/-- The latest attempt of each chain that has one, by chain. -/
def chainHeads (set : WorkingSet) : OrderedMap ChainId TaskId :=
  OrderedMap.ofList
    ((set.tasks.filter PreparedTask.isChainHead).map fun prepared =>
      (prepared.task.chainId, prepared.id))

end WorkingSet

end ClusterTick
