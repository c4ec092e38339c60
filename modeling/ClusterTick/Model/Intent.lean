import ClusterTick.Model.Identifier
import ClusterTick.Model.Snapshot

/-!
# Intents

What the scheduler wants to happen to the tasks of one tick.  A batch is handed
to the collaborator that carries it out; it says what was decided, not what has
been done.
-/

namespace ClusterTick

/-- What should happen to a task. -/
inductive IntentKind where
  | startup
  | suspend
  | keepRunning
  deriving DecidableEq, Repr, Inhabited

namespace IntentKind

def name : IntentKind → String
  | startup => "startup"
  | suspend => "suspend"
  | keepRunning => "keep_running"

/-- The name of the event that announces an intent. -/
def eventName (kind : IntentKind) : String := "task." ++ kind.name

instance : JsonForm IntentKind where
  toJson kind := .string kind.name
  ofJson? json := json.choice? [startup, suspend, keepRunning] name

end IntentKind

/-- The intent for one task. -/
structure Intent where
  taskId : TaskId
  chainId : ChainId
  userName : UserName
  group : GroupName
  kind : IntentKind
  /-- The nodes to start on, to give back or to keep. -/
  nodes : List NodeName
  deriving DecidableEq, Repr, Inhabited

namespace Intent

def fieldNames : List String :=
  ["task_id", "chain_id", "user_name", "group", "kind", "nodes"]

instance : JsonForm Intent where
  toJson intent := .object [
    ("task_id", JsonForm.toJson intent.taskId),
    ("chain_id", JsonForm.toJson intent.chainId),
    ("user_name", JsonForm.toJson intent.userName),
    ("group", JsonForm.toJson intent.group),
    ("kind", JsonForm.toJson intent.kind),
    ("nodes", JsonForm.toJson intent.nodes)]
  ofJson? json := do
    let fields ← Fields.read? fieldNames json
    return {
      taskId := ← fields.required "task_id"
      chainId := ← fields.required "chain_id"
      userName := ← fields.required "user_name"
      group := ← fields.required "group"
      kind := ← fields.required "kind"
      nodes := ← fields.required "nodes" }
  shape := .ofNames fieldNames

end Intent

/-- All intents of one tick. -/
structure IntentBatch where
  seq : SnapshotSeq
  issuedAt : Instant
  /-- Who issues the intents. -/
  actorId : String
  intents : List Intent
  deriving DecidableEq, Repr, Inhabited

namespace IntentBatch

/-- The name under which the scheduler issues intents. -/
def schedulerActor : String := "scheduler"

/-- The intents that change something. -/
def transitions (batch : IntentBatch) : List Intent :=
  batch.intents.filter fun intent => intent.kind ≠ .keepRunning

def isEmpty (batch : IntentBatch) : Bool := batch.intents.isEmpty

def fieldNames : List String := ["seq", "issued_at", "actor_id", "intents"]

instance : JsonForm IntentBatch where
  toJson batch := .object [
    ("seq", JsonForm.toJson batch.seq),
    ("issued_at", JsonForm.toJson batch.issuedAt),
    ("actor_id", JsonForm.toJson batch.actorId),
    ("intents", JsonForm.toJson batch.intents)]
  ofJson? json := do
    let fields ← Fields.read? fieldNames json
    return {
      seq := ← fields.required "seq"
      issuedAt := ← fields.required "issued_at"
      actorId := ← fields.required "actor_id"
      intents := ← fields.required "intents" }
  shape := .ofFields fieldNames [("intents", JsonForm.shape (List Intent))]

end IntentBatch

end ClusterTick
