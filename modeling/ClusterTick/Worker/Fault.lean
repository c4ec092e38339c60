import ClusterTick.Model.Snapshot

/-!
# Faults of the collaborators

Why a snapshot cannot be read, and why an assignment cannot be committed.  A
transient fault goes away by itself once all parts of a snapshot have arrived.
-/

namespace ClusterTick

/-- Why no snapshot could be read. -/
inductive SnapshotFault where
  /-- A part has not arrived yet. -/
  | incomplete (part : String)
  /-- The parts belong to different generations. -/
  | tornRead (torn : TornRead)
  /-- A file cannot be read or written. -/
  | unreadable (path : String)
  /-- A file does not hold what it should. -/
  | undecodable (path : String)
  deriving DecidableEq, Repr

/-- Why an assignment was not committed. -/
inductive CommitFault where
  | rejected (reason : String)
  /-- A file cannot be written. -/
  | unwritable (path : String)
  deriving DecidableEq, Repr

namespace SnapshotFault

/-- Whether another try may succeed. -/
def isTransient : SnapshotFault → Bool
  | incomplete _ => true
  | tornRead _ => true
  | unreadable _ => false
  | undecodable _ => false

def message : SnapshotFault → String
  | incomplete part => "snapshot incomplete: " ++ part ++ " not available"
  | tornRead torn => torn.message
  | unreadable path => "failed to read " ++ path
  | undecodable path => "failed to decode " ++ path

end SnapshotFault

namespace CommitFault

def message : CommitFault → String
  | rejected reason => "commit rejected: " ++ reason
  | unwritable path => "failed to write " ++ path

end CommitFault

end ClusterTick
