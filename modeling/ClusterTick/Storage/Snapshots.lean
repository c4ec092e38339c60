import ClusterTick.Json.Reader
import ClusterTick.Storage.FileSystem
import ClusterTick.Worker.Fault

/-!
# Snapshots in a directory

The three parts of a snapshot are files of one directory.  They are replaced one
after the other, so a reader may meet parts of two generations; it then reports
a torn read instead of a mixed snapshot.
-/

namespace ClusterTick.SnapshotDirectory

def nodesFile : String := "nodes.json"

def tasksFile : String := "tasks.json"

def usersFile : String := "users.json"

def files : List String := [nodesFile, tasksFile, usersFile]

/-- The steps that publish a snapshot in a directory. -/
def publishSteps (directory : String) (snapshot : Snapshot) : List FileStep :=
  let part {α : Type} [JsonForm α] (file : String) (rows : SnapshotPart α) :
      List FileStep :=
    FileStep.replaceFile (FileStep.join directory file)
      (JsonForm.toJson rows).pretty
  .makeDirectory directory ::
    (part nodesFile snapshot.nodesPart ++ part tasksFile snapshot.tasksPart ++
      part usersFile snapshot.usersPart)

/-- The value in a file that has been read. -/
def decodeFile {α : Type} [JsonForm α] (directory file : String) :
    ReadResult → Except SnapshotFault α
  | .missing => .error (.incomplete file)
  | .failed => .error (.unreadable (FileStep.join directory file))
  | .content text =>
    match JsonForm.ofText? text with
    | some value => .ok value
    | none => .error (.undecodable (FileStep.join directory file))

/-- The snapshot that the contents of the three files make.  The first fault
counts. -/
def combine (directory : String) (nodes tasks users : ReadResult) :
    Except SnapshotFault Snapshot := do
  let nodes ← decodeFile directory nodesFile nodes
  let tasks ← decodeFile directory tasksFile tasks
  let users ← decodeFile directory usersFile users
  match Snapshot.assemble nodes tasks users with
  | .ok snapshot => .ok snapshot
  | .error torn => .error (.tornRead torn)

/-- The number of a part alone; the other fields do not matter. -/
structure PartHeader where
  seq : SnapshotSeq
  deriving DecidableEq, Repr

instance : JsonForm PartHeader where
  toJson header := .object [("seq", JsonForm.toJson header.seq)]
  ofJson? json := do
    let fields ← Fields.read? ["seq"] json
    return { seq := ← fields.required "seq" }
  shape := .ofNames ["seq"]

/-- The greater of two numbers, any number being greater than none. -/
def newer (left right : Option SnapshotSeq) : Option SnapshotSeq :=
  match left, right with
  | some left, some right =>
    some (if left.value ≤ right.value then right else left)
  | some left, none => some left
  | none, right => right

/-- The newest number among the files that are there. -/
def newestSeq (directory : String) :
    List (String × ReadResult) → Except SnapshotFault (Option SnapshotSeq)
  | [] => .ok none
  | (_, .missing) :: rest => newestSeq directory rest
  | (file, result) :: rest => do
    let header : PartHeader ← decodeFile directory file result
    let later ← newestSeq directory rest
    return newer (some header.seq) later

variable {m : Type → Type} [Monad m]

/-- Publishes a snapshot. -/
def publish (system : FileSystem m) (directory : String) (snapshot : Snapshot) :
    m (Except SnapshotFault Unit) := do
  match ← FileStep.runAll system (publishSteps directory snapshot) with
  | .ok _ => return .ok ()
  | .error path => return .error (.unreadable path)

/-- The latest snapshot.  The three files are read one after the other. -/
def latest (system : FileSystem m) (directory : String) :
    m (Except SnapshotFault Snapshot) := do
  let nodes ← system.read (FileStep.join directory nodesFile)
  let tasks ← system.read (FileStep.join directory tasksFile)
  let users ← system.read (FileStep.join directory usersFile)
  return combine directory nodes tasks users

/-- The newest number in the directory. -/
def latestSeq (system : FileSystem m) (directory : String) :
    m (Except SnapshotFault (Option SnapshotSeq)) := do
  let results ← files.mapM fun file => do
    return (file, ← system.read (FileStep.join directory file))
  return newestSeq directory results

end ClusterTick.SnapshotDirectory
