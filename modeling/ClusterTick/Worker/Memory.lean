import ClusterTick.Worker.Worker

/-!
# Collaborators in memory

A snapshot, the committed assignments and the dispatched intents kept as values.
Each collaborator can be told to fail, or to announce a newer snapshot than
there is, so every course of a tick can be played through.
-/

namespace ClusterTick

/-- The state of collaborators in memory. -/
structure MemoryCluster where
  snapshot : Option Snapshot := none
  /-- The answer to the next read of a snapshot. -/
  snapshotFault : Option SnapshotFault := none
  /-- The answer to the next question for the newest number. -/
  seqFault : Option SnapshotFault := none
  /-- The newest number to report at the next question. -/
  announced : Option SnapshotSeq := none
  /-- How many of the next commits are refused. -/
  refusals : Nat := 0
  committed : List Assignment := []
  dispatching : Bool := true
  batches : List IntentBatch := []
  deriving DecidableEq, Repr, Inhabited

namespace MemoryCluster

/-- The latest snapshot, or the fault that is due. -/
def latest (cluster : MemoryCluster) :
    Except SnapshotFault Snapshot × MemoryCluster :=
  match cluster.snapshotFault, cluster.snapshot with
  | some fault, _ => (.error fault, { cluster with snapshotFault := none })
  | none, some snapshot => (.ok snapshot, cluster)
  | none, none => (.error (.incomplete "snapshot"), cluster)

/-- The newest number, or the fault or announcement that is due. -/
def latestSeq (cluster : MemoryCluster) :
    Except SnapshotFault (Option SnapshotSeq) × MemoryCluster :=
  match cluster.seqFault, cluster.announced with
  | some fault, _ => (.error fault, { cluster with seqFault := none })
  | none, some seq => (.ok (some seq), { cluster with announced := none })
  | none, none => (.ok (cluster.snapshot.map Snapshot.seq), cluster)

/-- Keeps an assignment, or refuses it. -/
def commit (assignment : Assignment) (cluster : MemoryCluster) :
    Except CommitFault Unit × MemoryCluster :=
  if cluster.refusals = 0 then
    (.ok (), { cluster with committed := cluster.committed ++ [assignment] })
  else
    (.error (.rejected ("injected failure for seq " ++ assignment.seq.text)),
      { cluster with refusals := cluster.refusals - 1 })

/-- Keeps the intents while the dispatcher is there. -/
def dispatch (batch : IntentBatch) (cluster : MemoryCluster) :
    Bool × MemoryCluster :=
  if cluster.dispatching then
    (true, { cluster with batches := cluster.batches ++ [batch] })
  else (false, cluster)

def collaborators : Collaborators (StateM MemoryCluster) where
  latest := latest
  latestSeq := latestSeq
  commit := commit
  dispatch := dispatch

end MemoryCluster

/-- What a run in memory is fed with. -/
inductive MemoryEvent where
  | publish (snapshot : Snapshot)
  | refuseCommits (count : Nat)
  | setDispatching (available : Bool)
  | announce (seq : SnapshotSeq)
  | failLatest (fault : SnapshotFault)
  | failLatestSeq (fault : SnapshotFault)
  deriving DecidableEq, Repr

namespace MemoryEvent

/-- The collaborators after an event. -/
def apply (cluster : MemoryCluster) : MemoryEvent → MemoryCluster
  | publish snapshot => { cluster with snapshot := some snapshot }
  | refuseCommits count => { cluster with refusals := count }
  | setDispatching available => { cluster with dispatching := available }
  | announce seq => { cluster with announced := some seq }
  | failLatest fault => { cluster with snapshotFault := some fault }
  | failLatestSeq fault => { cluster with seqFault := some fault }

end MemoryEvent

end ClusterTick
