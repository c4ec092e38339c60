import ClusterTick.Fixture.Draws
import ClusterTick.Model.Snapshot
import ClusterTick.Quota.Key

/-!
# Generated snapshots

Snapshots of any size with disjoint running tasks.  Nodes are handed out from
the end of a pool, each at most once, so whatever is drawn, no two tasks hold
the same node and every node names the task that holds it.
-/

namespace ClusterTick.Generator

/-- The group of every generated row. -/
def group : GroupName := ⟨"group"⟩

/-- The tier of every generated task, at which the users have their quota. -/
def tier : PriorityTier := .extremeHigh

/-- A name that ends in a number. -/
def numbered (stem : String) (number : Nat) : String :=
  stem ++ String.ofList (decimalDigits number)

def nodeName (index : Nat) : NodeName := ⟨numbered "node" index⟩

def userName (user : Nat) : UserName := ⟨numbered "user" user⟩

/-- A node; thirty-two share a leaf switch and eight leaves a spine. -/
def node (inFirstRoom : Bool) (holder : Option TaskId) (index : Nat) :
    Node where
  name := nodeName index
  gpuCount := 8
  cpuCount := 128
  memoryGb := 128
  group
  originGroup := group
  status := .ready
  working := holder
  room := if inFirstRoom then "room1" else "room2"
  leaf := numbered "leaf" (index / 32)
  spine := numbered "spine" (index / 256)

def user (quota : QuotaDraw) (number : Nat) : User where
  userName := userName number
  quota := OrderedMap.ofList
    [((⟨.node, ⟨group, tier⟩⟩ : QuotaKey).text, Int64.ofNat quota.amount)]

/-- A task before it becomes a row: whose it is, what it needs and which nodes
it is given. -/
structure PlannedTask where
  user : Nat
  /-- The position among the tasks of the user. -/
  index : Nat
  wanted : Nat
  runningSeconds : Nat
  /-- The indexes of its nodes, `none` when it waits. -/
  placed : Option (List Nat)
  deriving DecidableEq, Repr, Inhabited

/-- The task in a position of a user. -/
def taskId (config : GeneratorConfig) (user index : Nat) : TaskId :=
  ⟨UInt64.ofNat (user * config.tasksPerUser.toNat + index)⟩

/-- The positions of all tasks, user by user. -/
def positions (config : GeneratorConfig) : List (Nat × Nat) :=
  (List.range config.userCount.toNat).flatMap fun user =>
    (List.range config.tasksPerUser.toNat).map fun index => (user, index)

/-- Plans tasks one after the other.  A task that does not wait takes its nodes
from the end of the pool if the pool has enough of them. -/
def plan {config : GeneratorConfig} (draws : Draws config) :
    List (Nat × Nat) → List Nat → List PlannedTask
  | [], _ => []
  | (user, index) :: rest, pool =>
    let draw := draws.task user index
    let kept := pool.length - draw.wanted
    if !draw.isQueued && draw.wanted ≤ pool.length then
      ⟨user, index, draw.wanted, draw.runningSeconds, some (pool.drop kept)⟩ ::
        plan draws rest (pool.take kept)
    else
      ⟨user, index, draw.wanted, draw.runningSeconds, none⟩ ::
        plan draws rest pool

/-- The row of a planned task. -/
def task (config : GeneratorConfig) (planned : PlannedTask) : Task :=
  let id := taskId config planned.user planned.index
  { id
    chainId := ⟨numbered (numbered "" planned.user ++ "-") planned.index⟩
    firstId := id
    userName := userName planned.user
    group
    queueStatus := if planned.placed.isSome then .scheduled else .queued
    priority := tier.value?.getD 0
    nodes := UInt32.ofNat planned.wanted
    assignedNodes := (planned.placed.getD []).map nodeName
    createdSeconds := id.value
    runningSeconds :=
      if planned.placed.isSome then UInt64.ofNat planned.runningSeconds else 0 }

/-- The tasks that hold the nodes, by the index of the node. -/
def holders (config : GeneratorConfig) (planned : List PlannedTask) :
    Array (Option TaskId) :=
  planned.foldl
    (fun held planned =>
      (planned.placed.getD []).foldl
        (fun held index =>
          held.setIfInBounds index
            (some (taskId config planned.user planned.index)))
        held)
    (Array.replicate config.nodeCount.toNat none)

/-- The snapshot that an outcome of the draws makes. -/
def snapshotOf {config : GeneratorConfig} (draws : Draws config)
    (takenAt : Instant) : Snapshot :=
  let planned := plan draws (positions config) draws.pool
  let held := holders config planned
  { seq := ⟨1⟩
    valid := true
    takenAt
    nodes := (List.range config.nodeCount.toNat).map fun index =>
      node (draws.inFirstRoom index) (held[index]?.getD none) index
    tasks := planned.map (task config)
    users := (List.range config.userCount.toNat).map fun number =>
      user (draws.quota number) number }

/-- The snapshot that belongs to the seed of a configuration. -/
def generate (config : GeneratorConfig) (takenAt : Instant) : Snapshot :=
  snapshotOf (Draws.ofSeed config) takenAt

end ClusterTick.Generator
