import ClusterTick.Model.Identifier

/-!
# Tasks

A task row is one attempt of a chain: when a task is restarted, a new row with
a greater id joins the chain.  The last three fields carry the decision of a
tick.
-/

namespace ClusterTick

/-- Where a task stands. -/
inductive QueueStatus where
  | queued
  | scheduled
  | finished
  deriving DecidableEq, Repr, Inhabited

/-- What a task is for. -/
inductive TaskType where
  | training
  | jupyter
  | validation
  | interactive
  | background
  deriving DecidableEq, Repr, Inhabited

/-- Whether the rules admit a task. -/
inductive Admission where
  | canRun
  | cannotRun
  | notSure
  deriving DecidableEq, Repr, Inhabited

/-- What a tick does with a task. -/
inductive Decision where
  | startup
  | suspend
  | keepRunning
  | notSure
  deriving DecidableEq, Repr, Inhabited

namespace QueueStatus

def name : QueueStatus → String
  | queued => "queued"
  | scheduled => "scheduled"
  | finished => "finished"

instance : JsonForm QueueStatus where
  toJson status := .string status.name
  ofJson? json := json.choice? [queued, scheduled, finished] name

end QueueStatus

namespace TaskType

def name : TaskType → String
  | training => "training"
  | jupyter => "jupyter"
  | validation => "validation"
  | interactive => "virtual"
  | background => "background"

instance : JsonForm TaskType where
  toJson type := .string type.name
  ofJson? json :=
    json.choice? [training, jupyter, validation, interactive, background] name

end TaskType

namespace Admission

def name : Admission → String
  | canRun => "CAN_RUN"
  | cannotRun => "CANNOT_RUN"
  | notSure => "NOT_SURE"

instance : JsonForm Admission where
  toJson admission := .string admission.name
  ofJson? json := json.choice? [canRun, cannotRun, notSure] name

end Admission

namespace Decision

def all : List Decision := [startup, suspend, keepRunning, notSure]

def name : Decision → String
  | startup => "STARTUP"
  | suspend => "SUSPEND"
  | keepRunning => "KEEP_RUNNING"
  | notSure => "NOT_SURE"

instance : JsonForm Decision where
  toJson decision := .string decision.name
  ofJson? json := json.choice? all name

end Decision

/-- One attempt of a chain. -/
structure Task where
  id : TaskId
  /-- The experiment that all attempts of the chain carry on. -/
  chainId : ChainId
  /-- The first attempt of the chain. -/
  firstId : TaskId
  userName : UserName
  group : GroupName := ⟨""⟩
  taskType : TaskType := .training
  queueStatus : QueueStatus := .queued
  /-- A greater value is more urgent. -/
  priority : Int32 := 0
  /-- Order among tasks of equal priority, the greater one first. -/
  customRank : Option Binary64 := none
  /-- The number of nodes that the task needs. -/
  nodes : UInt32
  /-- The nodes that the task holds while it is scheduled. -/
  assignedNodes : List NodeName := []
  createdSeconds : UInt64 := 0
  /-- Seconds since the task was placed. -/
  runningSeconds : UInt64 := 0
  schedulerResult : Admission := .notSure
  processResult : Decision := .notSure
  /-- The reason for the decision, for people. -/
  schedulerMessage : String := ""
  deriving DecidableEq, Repr, Inhabited

namespace Task

def isQueued (task : Task) : Bool := task.queueStatus = .queued

def isScheduled (task : Task) : Bool := task.queueStatus = .scheduled

def isFinished (task : Task) : Bool := task.queueStatus = .finished

def isValidation (task : Task) : Bool := task.taskType = .validation

def fieldNames : List String :=
  ["id", "chain_id", "first_id", "user_name", "group", "task_type",
    "queue_status", "priority", "custom_rank", "nodes", "assigned_nodes",
    "created_seconds", "running_seconds", "scheduler_result", "process_result",
    "scheduler_msg"]

instance : JsonForm Task where
  toJson task := .object [
    ("id", JsonForm.toJson task.id),
    ("chain_id", JsonForm.toJson task.chainId),
    ("first_id", JsonForm.toJson task.firstId),
    ("user_name", JsonForm.toJson task.userName),
    ("group", JsonForm.toJson task.group),
    ("task_type", JsonForm.toJson task.taskType),
    ("queue_status", JsonForm.toJson task.queueStatus),
    ("priority", JsonForm.toJson task.priority),
    ("custom_rank", JsonForm.toJson task.customRank),
    ("nodes", JsonForm.toJson task.nodes),
    ("assigned_nodes", JsonForm.toJson task.assignedNodes),
    ("created_seconds", JsonForm.toJson task.createdSeconds),
    ("running_seconds", JsonForm.toJson task.runningSeconds),
    ("scheduler_result", JsonForm.toJson task.schedulerResult),
    ("process_result", JsonForm.toJson task.processResult),
    ("scheduler_msg", JsonForm.toJson task.schedulerMessage)]
  ofJson? json := do
    let fields ← Fields.read? fieldNames json
    return {
      id := ← fields.required "id"
      chainId := ← fields.required "chain_id"
      firstId := ← fields.required "first_id"
      userName := ← fields.required "user_name"
      group := ← fields.withDefault "group" ⟨""⟩
      taskType := ← fields.withDefault "task_type" .training
      queueStatus := ← fields.withDefault "queue_status" .queued
      priority := ← fields.withDefault "priority" 0
      customRank := ← fields.withDefault "custom_rank" none
      nodes := ← fields.required "nodes"
      assignedNodes := ← fields.withDefault "assigned_nodes" []
      createdSeconds := ← fields.withDefault "created_seconds" 0
      runningSeconds := ← fields.withDefault "running_seconds" 0
      schedulerResult := ← fields.withDefault "scheduler_result" .notSure
      processResult := ← fields.withDefault "process_result" .notSure
      schedulerMessage := ← fields.withDefault "scheduler_msg" "" }
  shape := .ofNames fieldNames

end Task

end ClusterTick
