import ClusterTick.Model.Identifier

/-!
# Nodes

One machine of the cluster as a snapshot reports it.
-/

namespace ClusterTick

/-- Whether a node can take work.  A status of another name counts as
unknown. -/
inductive NodeStatus where
  | ready
  | notReady
  | unknown
  deriving DecidableEq, Repr, Inhabited

namespace NodeStatus

def name : NodeStatus → String
  | ready => "Ready"
  | notReady => "NotReady"
  | unknown => "Unknown"

instance : JsonForm NodeStatus where
  toJson status := .string status.name
  ofJson? json :=
    json.choiceName?.map fun given =>
      (([ready, notReady].find? fun status => status.name = given).getD unknown)

end NodeStatus

/-- A machine. -/
structure Node where
  name : NodeName
  gpuCount : UInt32 := 0
  cpuCount : UInt32 := 0
  memoryGb : UInt64 := 0
  /-- The group whose tasks run here at present. -/
  group : GroupName := ⟨""⟩
  /-- The group that the node was bought for. -/
  originGroup : GroupName := ⟨""⟩
  status : NodeStatus := .unknown
  /-- The task that holds the node. -/
  working : Option TaskId := none
  room : String := ""
  leaf : String := ""
  spine : String := ""
  /-- Nodes out of service are no part of a tick. -/
  active : Bool := true
  deriving DecidableEq, Repr, Inhabited

namespace Node

/-- A node that can take work. -/
def isReady (node : Node) : Bool := node.active && node.status = .ready

/-- A node that no task holds. -/
def isFree (node : Node) : Bool := node.working.isNone

/-- A node row without its occupant. -/
def vacated (node : Node) : Node := { node with working := none }

def fieldNames : List String :=
  ["name", "gpu_count", "cpu_count", "memory_gb", "group", "origin_group",
    "status", "working", "room", "leaf", "spine", "active"]

instance : JsonForm Node where
  toJson node := .object [
    ("name", JsonForm.toJson node.name),
    ("gpu_count", JsonForm.toJson node.gpuCount),
    ("cpu_count", JsonForm.toJson node.cpuCount),
    ("memory_gb", JsonForm.toJson node.memoryGb),
    ("group", JsonForm.toJson node.group),
    ("origin_group", JsonForm.toJson node.originGroup),
    ("status", JsonForm.toJson node.status),
    ("working", JsonForm.toJson node.working),
    ("room", JsonForm.toJson node.room),
    ("leaf", JsonForm.toJson node.leaf),
    ("spine", JsonForm.toJson node.spine),
    ("active", JsonForm.toJson node.active)]
  ofJson? json := do
    let fields ← Fields.read? fieldNames json
    return {
      name := ← fields.required "name"
      gpuCount := ← fields.withDefault "gpu_count" 0
      cpuCount := ← fields.withDefault "cpu_count" 0
      memoryGb := ← fields.withDefault "memory_gb" 0
      group := ← fields.withDefault "group" ⟨""⟩
      originGroup := ← fields.withDefault "origin_group" ⟨""⟩
      status := ← fields.withDefault "status" .unknown
      working := ← fields.withDefault "working" none
      room := ← fields.withDefault "room" ""
      leaf := ← fields.withDefault "leaf" ""
      spine := ← fields.withDefault "spine" ""
      active := ← fields.withDefault "active" true }
  shape := .ofNames fieldNames

end Node

end ClusterTick
