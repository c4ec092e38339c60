import ClusterTick.Model.Node
import ClusterTick.Model.Task
import ClusterTick.Model.User
import ClusterTick.Time.Record

/-!
# Snapshots

The state of the cluster at one moment.  It is delivered in three parts that
are read one after the other; parts of different generations do not make a
snapshot.
-/

namespace ClusterTick

/-- One of the three lists of rows of a snapshot, as it is delivered. -/
structure SnapshotPart (α : Type) where
  seq : SnapshotSeq
  /-- False when the rows are known to be out of date. -/
  valid : Bool := true
  takenAt : Instant
  records : List α
  deriving DecidableEq, Repr

/-- The state that one tick decides on. -/
structure Snapshot where
  seq : SnapshotSeq
  /-- False when a tick must not preempt. -/
  valid : Bool
  takenAt : Instant
  nodes : List Node
  tasks : List Task
  users : List User
  deriving DecidableEq, Repr, Inhabited

/-- The numbers of three parts that belong to different generations. -/
structure TornRead where
  nodes : SnapshotSeq
  tasks : SnapshotSeq
  users : SnapshotSeq
  deriving DecidableEq, Repr

namespace TornRead

def message (torn : TornRead) : String :=
  "torn snapshot read: nodes@" ++ torn.nodes.text ++ ", tasks@" ++
    torn.tasks.text ++ ", users@" ++ torn.users.text

end TornRead

namespace SnapshotPart

variable {α : Type}

def fieldNames : List String := ["seq", "valid", "taken_at", "records"]

instance [JsonForm α] : JsonForm (SnapshotPart α) where
  toJson part := .object [
    ("seq", JsonForm.toJson part.seq),
    ("valid", JsonForm.toJson part.valid),
    ("taken_at", JsonForm.toJson part.takenAt),
    ("records", JsonForm.toJson part.records)]
  ofJson? json := do
    let fields ← Fields.read? fieldNames json
    return {
      seq := ← fields.required "seq"
      valid := ← fields.withDefault "valid" true
      takenAt := ← fields.required "taken_at"
      records := ← fields.required "records" }
  shape := .ofFields fieldNames [("records", JsonForm.shape (List α))]

end SnapshotPart

namespace Snapshot

/-- The snapshot that three parts of one generation make.  It is valid if every
part is, and as old as the oldest part. -/
def assemble (nodes : SnapshotPart Node) (tasks : SnapshotPart Task)
    (users : SnapshotPart User) : Except TornRead Snapshot :=
  if nodes.seq = tasks.seq ∧ nodes.seq = users.seq then
    .ok {
      seq := nodes.seq
      valid := nodes.valid && tasks.valid && users.valid
      takenAt := (nodes.takenAt.earlier tasks.takenAt).earlier users.takenAt
      nodes := nodes.records
      tasks := tasks.records
      users := users.records }
  else
    .error ⟨nodes.seq, tasks.seq, users.seq⟩

def nodesPart (snapshot : Snapshot) : SnapshotPart Node :=
  ⟨snapshot.seq, snapshot.valid, snapshot.takenAt, snapshot.nodes⟩

def tasksPart (snapshot : Snapshot) : SnapshotPart Task :=
  ⟨snapshot.seq, snapshot.valid, snapshot.takenAt, snapshot.tasks⟩

def usersPart (snapshot : Snapshot) : SnapshotPart User :=
  ⟨snapshot.seq, snapshot.valid, snapshot.takenAt, snapshot.users⟩

/-- Its own three parts make a snapshot again. -/
theorem assemble_parts (snapshot : Snapshot) :
    assemble snapshot.nodesPart snapshot.tasksPart snapshot.usersPart =
      .ok snapshot := by
  simp [assemble, nodesPart, tasksPart, usersPart, Instant.earlier]

def fieldNames : List String :=
  ["seq", "valid", "taken_at", "nodes", "tasks", "users"]

instance : JsonForm Snapshot where
  toJson snapshot := .object [
    ("seq", JsonForm.toJson snapshot.seq),
    ("valid", JsonForm.toJson snapshot.valid),
    ("taken_at", JsonForm.toJson snapshot.takenAt),
    ("nodes", JsonForm.toJson snapshot.nodes),
    ("tasks", JsonForm.toJson snapshot.tasks),
    ("users", JsonForm.toJson snapshot.users)]
  ofJson? json := do
    let fields ← Fields.read? fieldNames json
    return {
      seq := ← fields.required "seq"
      valid := ← fields.required "valid"
      takenAt := ← fields.required "taken_at"
      nodes := ← fields.required "nodes"
      tasks := ← fields.required "tasks"
      users := ← fields.required "users" }
  shape := .ofFields fieldNames [
    ("nodes", JsonForm.shape (List Node)),
    ("tasks", JsonForm.shape (List Task)),
    ("users", JsonForm.shape (List User))]

end Snapshot

end ClusterTick
