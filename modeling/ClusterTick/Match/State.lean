import ClusterTick.Match.Partition
import ClusterTick.Order.OrderedMap

/-!
# The state of a match

The nodes of a partition while its tasks are decided one after the other.  A
node is open while a task can be placed on it; a release opens the nodes that
are ready, a start closes the chosen ones.
-/

namespace ClusterTick

/-- A node of the partition, and whether a task can be placed on it. -/
structure PoolNode where
  node : Node
  isOpen : Bool
  deriving DecidableEq, Repr, Inhabited

/-- A running task that may be preempted. -/
structure Holder where
  id : TaskId
  priority : Int32
  runningSeconds : UInt64
  nodes : List NodeName
  deriving DecidableEq, Repr, Inhabited

/-- A partition that is being matched. -/
structure MatchState where
  group : GroupName
  /-- The number of nodes that the group has. -/
  active : Nat
  /-- The nodes in the order of their names. -/
  pool : List PoolNode
  /-- The decided tasks, in the order of the decisions. -/
  decisions : List Task := []
  holders : List Holder := []
  infeasible : List TaskId := []
  deriving DecidableEq, Repr, Inhabited

namespace MatchState

/-- The state before the first decision.  A node whose name is repeated is kept
as its last row has it, and is open if any of its rows is free and ready. -/
def ofNodes (group : GroupName) (nodes : List Node) : MatchState :=
  { group
    active := nodes.length
    pool := (OrderedMap.lastRows Node.name nodes).map fun node =>
      { node
        isOpen :=
          nodes.any fun row =>
            row.name = node.name ∧ row.isFree ∧ row.isReady } }

def freeNodes (state : MatchState) : List Node :=
  (state.pool.filter PoolNode.isOpen).map PoolNode.node

def freeCount (state : MatchState) : Nat :=
  (state.pool.filter PoolNode.isOpen).length

/-- The state with one more decision. -/
def record (state : MatchState) (task : Task) (decision : Decision)
    (admission : Admission) (message : String) : MatchState :=
  { state with
    decisions := state.decisions ++ [{ task with
      processResult := decision
      schedulerResult := admission
      schedulerMessage := message }] }

/-- Whether a node is among the listed ones and held by a task. -/
def isHeldBy (id : TaskId) (names : List NodeName) (node : Node) : Bool :=
  names.contains node.name && node.working = some id

/-- A node after the task that holds it has given it back.  It can take work
again if it is ready. -/
def releaseNode (id : TaskId) (names : List NodeName) (place : PoolNode) :
    PoolNode :=
  if isHeldBy id names place.node then
    { node := { place.node with working := none },
      isOpen := place.isOpen || place.node.isReady }
  else
    place

/-- The state after a task has given back the nodes that it lists and holds. -/
def release (state : MatchState) (id : TaskId) (names : List NodeName) :
    MatchState :=
  { state with pool := state.pool.map (releaseNode id names) }

/-- The names of the nodes that a release opens. -/
def releasable (state : MatchState) (id : TaskId) (names : List NodeName) :
    List NodeName :=
  (state.pool.filter fun place =>
      isHeldBy id names place.node && place.node.isReady).map (·.node.name)

/-- A running task keeps its nodes.  It may be preempted later if the pass
allows it. -/
def keep (state : MatchState) (prepared : PreparedTask) (preemptible : Bool) :
    MatchState :=
  let holder : Holder :=
    ⟨prepared.id, prepared.effectivePriority, prepared.task.runningSeconds,
      prepared.task.assignedNodes⟩
  let state :=
    if preemptible then { state with holders := state.holders ++ [holder] }
    else state
  state.record prepared.task .keepRunning .canRun ""

/-- A running task loses its nodes. -/
def suspend (state : MatchState) (task : Task) (denial : Denial) : MatchState :=
  (state.release task.id task.assignedNodes).record task .suspend .cannotRun
    denial.message

/-- A queued task that the rules turn down. -/
def holdBack (state : MatchState) (task : Task) (denial : Denial) :
    MatchState :=
  state.record task .notSure .cannotRun denial.message

/-- Whether a task needs more nodes than the group has. -/
def isInfeasible (state : MatchState) (task : Task) : Bool :=
  state.active < task.nodes.toNat

def countText (count : Nat) : String := String.ofList (decimalDigits count)

/-- A queued task that can never be placed. -/
def rejectInfeasible (state : MatchState) (task : Task) : MatchState :=
  { state with infeasible := state.infeasible ++ [task.id] }.record task
    .notSure .cannotRun
    ("infeasible: requests " ++ countText task.nodes.toNat ++
      " nodes but group " ++ state.group.text ++ " has " ++
      countText state.active ++ " active nodes")

/-- A node after a task has been placed on the chosen ones. -/
def occupyNode (id : TaskId) (chosen : List NodeName) (place : PoolNode) :
    PoolNode :=
  if chosen.contains place.node.name then
    { node := { place.node with working := some id }, isOpen := false }
  else
    place

/-- A queued task starts on the chosen nodes. -/
def start (state : MatchState) (task : Task) (chosen : List NodeName) :
    MatchState :=
  { state with pool := state.pool.map (occupyNode task.id chosen) }.record
    { task with assignedNodes := chosen, runningSeconds := 0 } .startup .canRun
    ("starting on " ++ countText chosen.length ++ " nodes in group " ++
      state.group.text)

/-- A queued task that the rules admit and that finds no room. -/
def wait (state : MatchState) (task : Task) : MatchState :=
  state.record task .notSure .canRun
    ("waiting for " ++ countText task.nodes.toNat ++ " free nodes in group " ++
      state.group.text ++ " (" ++ countText state.freeCount ++ " free)")

/-- What has been decided. -/
def outcome (state : MatchState) : MatchOutcome :=
  ⟨state.pool.map PoolNode.node, state.decisions, state.infeasible⟩

end MatchState

end ClusterTick
