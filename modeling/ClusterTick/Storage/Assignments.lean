import ClusterTick.Storage.Snapshots
import ClusterTick.Time.Instant
import ClusterTick.Worker.Worker

/-!
# Assignments in a directory

Each assignment is a file that is named for its snapshot, with the number
padded so that the names sort like the numbers.
-/

namespace ClusterTick.AssignmentDirectory

/-- The name of the file of an assignment. -/
def fileName (seq : SnapshotSeq) : String :=
  "assignment-" ++ String.ofList (paddedDigits 20 seq.value.toNat) ++ ".json"

/-- The path of the file of an assignment. -/
def path (directory : String) (seq : SnapshotSeq) : String :=
  FileStep.join directory (fileName seq)

/-- The steps that store an assignment. -/
def commitSteps (directory : String) (assignment : Assignment) :
    List FileStep :=
  .makeDirectory directory ::
    FileStep.replaceFile (path directory assignment.seq)
      (JsonForm.toJson assignment).pretty

variable {m : Type → Type} [Monad m]

/-- Stores an assignment. -/
def commit (system : FileSystem m) (directory : String)
    (assignment : Assignment) : m (Except CommitFault Unit) := do
  match ← FileStep.runAll system (commitSteps directory assignment) with
  | .ok _ => return .ok ()
  | .error path => return .error (.unwritable path)

/-- A source and a sink on two directories.  Nobody takes the intents. -/
def collaborators (system : FileSystem m) (snapshots assignments : String) :
    Collaborators m where
  latest := SnapshotDirectory.latest system snapshots
  latestSeq := SnapshotDirectory.latestSeq system snapshots
  commit := commit system assignments
  dispatch _ := return true

end ClusterTick.AssignmentDirectory
