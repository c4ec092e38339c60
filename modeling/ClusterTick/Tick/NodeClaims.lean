import ClusterTick.Model.Node
import ClusterTick.Model.Task
import ClusterTick.Order.OrderedMap

/-!
# The occupancy of the nodes

Who holds a node is rebuilt from the scheduled tasks.  They claim the nodes that
they list, one task after the other and each task in the order of its list.  A
node goes to the task that claims it first, and every later claim is contested.
-/

namespace ClusterTick

/-- A contested listing: a node, and the task that holds it. -/
structure NodeConflict where
  node : NodeName
  holder : TaskId
  deriving DecidableEq, Repr, Inhabited

/-- How far the scheduled tasks have claimed their nodes. -/
structure NodeClaims where
  /-- The active nodes in the order of their names, each with its holder. -/
  nodes : List Node
  /-- The first contested listing of each task that has one. -/
  conflicts : OrderedMap TaskId NodeConflict
  /-- How many listings are contested. -/
  doubleBooked : Nat
  deriving DecidableEq, Repr, Inhabited

namespace NodeClaims

/-- Nobody has claimed a node. -/
def vacant (nodes : List Node) : NodeClaims where
  nodes := nodes.map Node.vacated
  conflicts := .empty
  doubleBooked := 0

/-- The task that holds a node. -/
def occupant? (claims : NodeClaims) (name : NodeName) : Option TaskId :=
  (claims.nodes.find? fun node => node.name = name).bind Node.working

/-- A node goes to a task. -/
def give (claims : NodeClaims) (id : TaskId) (name : NodeName) : NodeClaims :=
  { claims with
    nodes := claims.nodes.map fun node =>
      if node.name = name then { node with working := some id } else node }

/-- A task lists a node that is held.  The first time this is its conflict. -/
def contest (claims : NodeClaims) (id : TaskId) (conflict : NodeConflict) :
    NodeClaims :=
  { claims with
    conflicts := claims.conflicts.combine (fun first _ => first) id conflict
    doubleBooked := claims.doubleBooked + 1 }

/-- A task claims the node of a name.  A name without an active node is passed
over. -/
def claim (id : TaskId) (claims : NodeClaims) (name : NodeName) : NodeClaims :=
  match claims.nodes.find? fun node => node.name = name with
  | none => claims
  | some node =>
    match node.working with
    | none => claims.give id name
    | some holder => claims.contest id ⟨name, holder⟩

/-- A task claims the nodes that it lists. -/
def claimAll (claims : NodeClaims) (task : Task) : NodeClaims :=
  task.assignedNodes.foldl (claim task.id) claims

/-- The scheduled tasks have claimed their nodes. -/
def ofTasks (nodes : List Node) (tasks : List Task) : NodeClaims :=
  (tasks.filter Task.isScheduled).foldl claimAll (vacant nodes)

end NodeClaims

end ClusterTick
