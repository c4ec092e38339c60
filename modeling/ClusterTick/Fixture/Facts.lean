import ClusterTick.Fixture.Generator
import ClusterTick.Tick.Schedule

/-!
# Facts about generated snapshots

Checks of what holds of a generated snapshot whatever was drawn: its constants,
the ranges of its numbers, and the agreement between the nodes that tasks list
and the tasks that nodes name.
-/

namespace ClusterTick.Generator

/-- Whether a node is one of those that the generator makes. -/
def isPlainNode (candidate : Node) : Bool :=
  candidate.gpuCount = 8 ∧ candidate.cpuCount = 128 ∧ candidate.memoryGb = 128 ∧
    candidate.isReady ∧ candidate.group = group ∧
    candidate.originGroup = group ∧
    (candidate.room = "room1" ∨ candidate.room = "room2")

/-- Whether an amount of nodes is one that a user can have. -/
def isQuotaAmount (amount : Int64) : Bool :=
  (1 ≤ amount ∧ amount ≤ 1000) ∨ (10000 ≤ amount ∧ amount ≤ 100000)

/-- Whether a task can need a number of nodes. -/
def isWanted (config : GeneratorConfig) (nodes : UInt32) : Bool :=
  if config.bigTaskRatio = .ofNat 1 then 30 ≤ nodes ∧ nodes ≤ 60
  else if config.bigTaskRatio.isZero then 1 ≤ nodes ∧ nodes ≤ 10
  else 1 ≤ nodes ∧ nodes ≤ 60

/-- Whether a task has run no longer than it can have. -/
def isRunningTime (candidate : Task) : Bool :=
  if candidate.isScheduled then candidate.runningSeconds ≤ 3600
  else candidate.runningSeconds = 0

/-- Whether a task lists as many nodes as it needs while it runs, and none
while it waits. -/
def holdsExactly (candidate : Task) : Bool :=
  candidate.assignedNodes.length =
    (if candidate.isScheduled then candidate.nodes.toNat else 0)

/-- Neighbours in a sorted list differ. -/
def hasNoRepeats : List NodeName → Bool
  | first :: second :: rest => first ≠ second && hasNoRepeats (second :: rest)
  | _ => true

/-- All listed nodes, sorted by name. -/
def listedNodes (snapshot : Snapshot) : List NodeName :=
  (snapshot.tasks.flatMap Task.assignedNodes).mergeSort fun left right =>
    (compare left right).isLE

/-- Whether no node is listed twice. -/
def isDisjoint (snapshot : Snapshot) : Bool :=
  hasNoRepeats (listedNodes snapshot)

/-- Whether a node names the task that lists it, and no other one. -/
def isOccupancyKept (snapshot : Snapshot) : Bool :=
  snapshot.nodes.all fun candidate =>
    (snapshot.tasks.find? fun task => candidate.name ∈ task.assignedNodes).map
        Task.id = candidate.working

/-- The number of waiting tasks, when the configuration settles it: all tasks
wait, or there are no nodes for them, or none waits and the nodes are enough for
all. -/
def settledQueue? (config : GeneratorConfig) (snapshot : Snapshot) :
    Option Nat :=
  let tasks := config.userCount.toNat * config.tasksPerUser.toNat
  let settled := config.queuedRatio = .ofNat 1 ∨ config.nodeCount = 0 ∨
    (config.queuedRatio.isZero ∧ 60 * tasks ≤ config.nodeCount.toNat)
  if settled then some (snapshot.tasks.filter Task.isQueued).length else none

def nodeRow (node : Node) : Json :=
  .array [JsonForm.toJson node.name, .string node.leaf, .string node.spine]

def userRow (user : User) : Json :=
  .array [JsonForm.toJson user.userName, JsonForm.toJson user.role,
    JsonForm.toJson user.quota.keys]

def taskRow (task : Task) : Json :=
  .array [JsonForm.toJson task.id, JsonForm.toJson task.chainId,
    JsonForm.toJson task.firstId, JsonForm.toJson task.userName,
    JsonForm.toJson task.priority, JsonForm.toJson task.createdSeconds]

/-- What does not depend on chance in the snapshot of a configuration. -/
def summary (config : GeneratorConfig) : Json :=
  let takenAt : Instant := ⟨0⟩
  let snapshot := generate config takenAt
  let amounts := snapshot.users.flatMap fun user => user.quota.values
  let assignment := (Tick.schedule snapshot {} takenAt).assignment
  .object [
    ("seq", JsonForm.toJson snapshot.seq), ("valid", .bool snapshot.valid),
    ("nodes", .array (snapshot.nodes.map nodeRow)),
    ("users", .array (snapshot.users.map userRow)),
    ("tasks", .array (snapshot.tasks.map taskRow)),
    ("node_constants", .bool (snapshot.nodes.all isPlainNode)),
    ("quota_in_range", .bool (amounts.all isQuotaAmount)),
    ("nodes_in_range",
      .bool (snapshot.tasks.all fun task => isWanted config task.nodes)),
    ("running_in_range", .bool (snapshot.tasks.all isRunningTime)),
    ("holds_exactly", .bool (snapshot.tasks.all holdsExactly)),
    ("disjoint", .bool (isDisjoint snapshot)),
    ("occupancy", .bool (isOccupancyKept snapshot)),
    ("same_again", .bool (generate config takenAt = snapshot)),
    ("queued", match settledQueue? config snapshot with
      | some count => .ofNat count
      | none => .null),
      ("tick",
        .array
          [.ofNat assignment.nodes.length, .ofNat assignment.tasks.length])]

end ClusterTick.Generator
