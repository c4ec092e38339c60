import ClusterTick.Json.Canonical
import ClusterTick.Model.Intent
import ClusterTick.Model.Snapshot

/-!
# Assignments

The decisions of one tick and the occupancy of the nodes that follows from
them.  An assignment is announced as intents, enacted as the next snapshot, and
identified by a digest that leaves the time of decision out.
-/

namespace ClusterTick

/-- The decisions of one tick. -/
structure Assignment where
  /-- The snapshot that was decided on. -/
  seq : SnapshotSeq
  /-- False when preemption was off. -/
  valid : Bool
  decidedAt : Instant
  /-- The active nodes with their occupancy after the tick. -/
  nodes : List Node
  /-- The tasks with a decision.  A suspended task still lists the nodes that it
  gives back. -/
  tasks : List Task
  /-- Tasks that are too large for their group. -/
  infeasible : List TaskId := []
  /-- How many rows were dropped because another partition had decided on the
  same task. -/
  collisions : UInt64 := 0
  deriving DecidableEq, Repr, Inhabited

namespace Assignment

/-- The number of tasks with a decision. -/
def count (assignment : Assignment) (decision : Decision) : Nat :=
  (assignment.tasks.filter fun task => task.processResult = decision).length

/-- The row that decides on a task. -/
def decision? (assignment : Assignment) (id : TaskId) : Option Task :=
  assignment.tasks.find? fun task => task.id = id

/-- The intent that a decision calls for. -/
def intentKind? : Decision → Option IntentKind
  | .startup => some .startup
  | .suspend => some .suspend
  | .keepRunning => some .keepRunning
  | .notSure => none

/-- The intent for a decided task; a task that waits has none. -/
def intent? (task : Task) : Option Intent :=
  (intentKind? task.processResult).map fun kind =>
    ⟨task.id, task.chainId, task.userName, task.group, kind, task.assignedNodes⟩

/-- The intents of an assignment in the order of its tasks. -/
def intents (assignment : Assignment) : IntentBatch :=
  ⟨assignment.seq, assignment.decidedAt, IntentBatch.schedulerActor,
    assignment.tasks.filterMap intent?⟩

/-- A task row once the decision on it is enacted.  A started task holds its
nodes from now on, a suspended one goes back to the queue. -/
def enact (decision task : Task) : Task :=
  let verdict := { task with
    schedulerResult := decision.schedulerResult
    processResult := decision.processResult
    schedulerMessage := decision.schedulerMessage }
  match decision.processResult with
  | .startup => { verdict with
      queueStatus := .scheduled
      assignedNodes := decision.assignedNodes
      runningSeconds := 0 }
  | .suspend => { verdict with
      queueStatus := .queued
      assignedNodes := []
      runningSeconds := 0 }
  | .keepRunning | .notSure => verdict

/-- The last row of an assignment that decides on a task. -/
def lastDecision? (assignment : Assignment) (id : TaskId) : Option Task :=
  assignment.tasks.reverse.find? fun task => task.id = id

/-- The task rows of a snapshot once the decisions are enacted. -/
def project (assignment : Assignment) (snapshot : Snapshot) : List Task :=
  snapshot.tasks.map fun task =>
    match assignment.lastDecision? task.id with
    | some decision => enact decision task
    | none => task

/-- The last row of an assignment for a node. -/
def lastNode? (assignment : Assignment) (name : NodeName) : Option Node :=
  assignment.nodes.reverse.find? fun node => node.name = name

/-- The snapshot that follows once the decisions are enacted. -/
def nextSnapshot (assignment : Assignment) (snapshot : Snapshot) : Snapshot :=
  { snapshot with
    seq := snapshot.seq.next
    nodes := snapshot.nodes.map fun node =>
      match assignment.lastNode? node.name with
      | some decided => { node with working := decided.working }
      | none => node
    tasks := assignment.project snapshot }

def fieldNames : List String :=
  ["seq", "valid", "decided_at", "nodes", "tasks", "infeasible", "collisions"]

/-- The members of the JSON form that follow the time of decision. -/
def outcomeMembers (assignment : Assignment) : List (String × Json) := [
  ("nodes", JsonForm.toJson assignment.nodes),
  ("tasks", JsonForm.toJson assignment.tasks),
  ("infeasible", JsonForm.toJson assignment.infeasible),
  ("collisions", JsonForm.toJson assignment.collisions)]

/-- The JSON form without the time of decision, which says nothing about what
was decided. -/
def timelessJson (assignment : Assignment) : Json :=
  .object (("seq", JsonForm.toJson assignment.seq) ::
    ("valid", JsonForm.toJson assignment.valid) :: assignment.outcomeMembers)

instance : JsonForm Assignment where
  toJson assignment :=
    .object (("seq", JsonForm.toJson assignment.seq) ::
      ("valid", JsonForm.toJson assignment.valid) ::
      ("decided_at", JsonForm.toJson assignment.decidedAt) ::
      assignment.outcomeMembers)
  ofJson? json := do
    let fields ← Fields.read? fieldNames json
    return {
      seq := ← fields.required "seq"
      valid := ← fields.required "valid"
      decidedAt := ← fields.required "decided_at"
      nodes := ← fields.required "nodes"
      tasks := ← fields.required "tasks"
      infeasible := ← fields.withDefault "infeasible" []
      collisions := ← fields.withDefault "collisions" 0 }
  shape := .ofFields fieldNames [
    ("nodes", JsonForm.shape (List Node)),
    ("tasks", JsonForm.shape (List Task))]

/-- Identifies what was decided: equal for two assignments that differ only in
the time of decision. -/
def digest (assignment : Assignment) : String := assignment.timelessJson.digest

end Assignment

end ClusterTick
