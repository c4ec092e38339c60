import ClusterTick.Model.Identifier

/-!
# Checkpoints

The last snapshot whose decisions were committed.  A checkpoint only moves
forward, so no snapshot is committed twice.
-/

namespace ClusterTick

/-- The last committed snapshot, `none` before the first commit. -/
structure Checkpoint where
  last : Option SnapshotSeq := none
  deriving DecidableEq, Repr, Inhabited

namespace Checkpoint

/-- Whether a snapshot is not newer than the last committed one. -/
def isProcessed (checkpoint : Checkpoint) (seq : SnapshotSeq) : Bool :=
  match checkpoint.last with
  | some last => seq.value ≤ last.value
  | none => false

/-- The checkpoint after a commit. -/
def advance (checkpoint : Checkpoint) (seq : SnapshotSeq) : Checkpoint :=
  if checkpoint.isProcessed seq then checkpoint else ⟨some seq⟩

end Checkpoint

end ClusterTick
