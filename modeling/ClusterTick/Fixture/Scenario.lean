import ClusterTick.Model.Snapshot
import ClusterTick.Quota.Key

/-!
# Hand-made snapshots

Small clusters that are put together row by row.  New rows go to the group that
was chosen last, and a scheduled task takes its nodes when it is added.
-/

namespace ClusterTick

/-- A snapshot in the making. -/
structure Scenario where
  seq : SnapshotSeq := ⟨1⟩
  valid : Bool := true
  /-- The group of the rows that are added next. -/
  group : GroupName := ⟨"default"⟩
  nodes : List Node := []
  tasks : List Task := []
  users : List User := []
  deriving DecidableEq, Repr, Inhabited

namespace Scenario

/-- A training task that waits in the queue, the only attempt of its chain. -/
def queuedTask (id : TaskId) (userName : UserName) (group : GroupName)
    (priority : Int32) (nodes : UInt32) : Task where
  id
  chainId := ⟨"chain-" ++ id.text⟩
  firstId := id
  userName
  group
  priority
  nodes
  createdSeconds := id.value

/-- The same amount of nodes in a group at every tier. -/
def evenQuota (group : GroupName) (amount : Int64) : OrderedMap String Int64 :=
  OrderedMap.ofList (PriorityTier.named.map fun tier =>
    ((⟨.node, ⟨group, tier⟩⟩ : QuotaKey).text, amount))

/-- A free node that can take work. -/
def readyNode (group : GroupName) (name : NodeName) (room : String) : Node where
  name
  gpuCount := 8
  cpuCount := 64
  memoryGb := 512
  group
  originGroup := group
  status := .ready
  room
  leaf := room ++ "-leaf"
  spine := room ++ "-spine"

def addNode (scenario : Scenario) (node : Node) : Scenario :=
  { scenario with nodes := scenario.nodes ++ [node] }

/-- Adds a ready node to the current group. -/
def addReadyNode (scenario : Scenario) (name : NodeName) (room : String) :
    Scenario :=
  scenario.addNode (readyNode scenario.group name room)

/-- Adds ready nodes that are numbered from one. -/
def addReadyNodes (scenario : Scenario) (stem : String) (count : Nat)
    (room : String) : Scenario :=
  (List.range count).foldl
    (fun scenario index =>
      scenario.addReadyNode ⟨stem ++ String.ofList (decimalDigits (index + 1))⟩
        room)
    scenario

def addUser (scenario : Scenario) (user : User) : Scenario :=
  { scenario with users := scenario.users ++ [user] }

/-- Adds an internal user with the same quota at every tier of the current
group. -/
def addQuotaHolder (scenario : Scenario) (name : UserName) (amount : Int64) :
    Scenario :=
  scenario.addUser
    { userName := name, quota := evenQuota scenario.group amount }

/-- Lets a task take the nodes that it lists. -/
def occupy (task : Task) (node : Node) : Node :=
  if task.isScheduled ∧ node.name ∈ task.assignedNodes then
    { node with working := some task.id }
  else node

/-- Adds a task; a scheduled one takes those of its nodes that are there. -/
def addTask (scenario : Scenario) (task : Task) : Scenario :=
  { scenario with
    nodes := scenario.nodes.map (occupy task)
    tasks := scenario.tasks ++ [task] }

/-- Adds a waiting task to the current group. -/
def addQueued (scenario : Scenario) (id : TaskId) (userName : UserName)
    (priority : Int32) (nodes : UInt32) : Scenario :=
  scenario.addTask (queuedTask id userName scenario.group priority nodes)

/-- Adds a task that has been running for ten minutes to the current group. -/
def addScheduled (scenario : Scenario) (id : TaskId) (userName : UserName)
    (priority : Int32) (assigned : List NodeName) : Scenario :=
  scenario.addTask
    { queuedTask id userName scenario.group priority
      (UInt32.ofNat assigned.length) with
        queueStatus := .scheduled
        assignedNodes := assigned
        runningSeconds := 600 }

/-- Changes the task that was added last. -/
def changeLastTask (scenario : Scenario) (change : Task → Task) : Scenario :=
  match scenario.tasks.getLast? with
  | some task =>
    { scenario with tasks := scenario.tasks.dropLast ++ [change task] }
  | none => scenario

/-- The finished snapshot. -/
def snapshot (scenario : Scenario) (takenAt : Instant) : Snapshot :=
  ⟨scenario.seq, scenario.valid, takenAt, scenario.nodes, scenario.tasks,
    scenario.users⟩

end Scenario

end ClusterTick
