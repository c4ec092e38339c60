import ClusterTick.Tick.FanOut
import ClusterTick.Worker.Checkpoint
import ClusterTick.Worker.Fault
import ClusterTick.Worker.Settings

/-!
# The worker

A worker runs ticks against three collaborators: a source of snapshots, a sink
for assignments and a dispatcher of intents.  A tick reads the latest snapshot,
decides on it, makes sure that no newer one has arrived meanwhile, commits, and
only then moves the checkpoint and dispatches the intents.  A tick that fails
before its commit leaves no trace beyond the health record, and one that loses a
matching worker, which is a fault of the monad it runs in, not even that.
-/

namespace ClusterTick

/-- What a worker works with. -/
structure Collaborators (m : Type → Type) where
  /-- The latest complete snapshot. -/
  latest : m (Except SnapshotFault Snapshot)
  /-- The number of the newest data there is. -/
  latestSeq : m (Except SnapshotFault (Option SnapshotSeq))
  /-- Stores an assignment as a whole or not at all. -/
  commit : Assignment → m (Except CommitFault Unit)
  /-- Hands on the intents; whether that succeeded. -/
  dispatch : IntentBatch → m Bool

/-- The times that belong to one tick. -/
structure TickTimes where
  decidedAt : Instant
  /-- The time spent on matching. -/
  matching : Span
  deriving DecidableEq, Repr, Inhabited

/-- What a tick came to. -/
inductive TickResult where
  /-- There was no complete snapshot. -/
  | idle
  /-- The snapshot had been committed before. -/
  | skipped (seq : SnapshotSeq)
  /-- A newer snapshot arrived; nothing was committed. -/
  | discarded (seq newer : SnapshotSeq)
  | committed (seq : SnapshotSeq) (metrics : TickMetrics)
  deriving DecidableEq, Repr

/-- Why a tick failed. -/
inductive TickFault where
  | source (fault : SnapshotFault)
  | sink (fault : CommitFault)
  deriving DecidableEq, Repr

namespace TickFault

def message : TickFault → String
  | source fault => "snapshot provider error: " ++ fault.message
  | sink fault => "apply sink error: " ++ fault.message

end TickFault

/-- The state of a worker between ticks. -/
structure Worker where
  engine : EngineConfig
  interval : Span := Settings.defaultTickInterval
  checkpoint : Checkpoint := {}
  health : TickHealth := .ofWindow .standard
  deriving DecidableEq, Repr

namespace Worker

/-- The worker with the settings of a service.  Its health record starts
anew. -/
def configure (worker : Worker) (settings : Settings) : Worker :=
  { worker with
    engine := settings.engine
    interval := settings.tickInterval
    health := .ofWindow (.empty settings.sla settings.slaWindow) }

variable {m : Type → Type} [Monad m]

/-- Commits the decisions on a snapshot and dispatches their intents. -/
def commit (collaborators : Collaborators m) (worker : Worker)
    (assignment : Assignment) (metrics : TickMetrics) :
    m (Worker × Except TickFault TickResult) := do
  match ← collaborators.commit assignment with
  | .error fault => return (worker, .error (.sink fault))
  | .ok _ =>
    let worker :=
      { worker with checkpoint := worker.checkpoint.advance metrics.seq }
    let _ ← collaborators.dispatch assignment.intents
    return (worker, .ok (.committed metrics.seq metrics))

/-- Decides on a snapshot, and commits unless a newer one has arrived. -/
def decide (executor : Executor m) (collaborators : Collaborators m)
    (worker : Worker) (snapshot : Snapshot) (times : TickTimes) :
    m (Worker × Except TickFault TickResult) := do
  let output ← Tick.runTick executor snapshot worker.engine times.decidedAt
  let assignment := output.assignment
  let (health, metrics) :=
    worker.health.record snapshot.seq snapshot.takenAt assignment.decidedAt
      times.matching
  let worker := { worker with health }
  match ← collaborators.latestSeq with
  | .error fault => return (worker, .error (.source fault))
  | .ok (some newer) =>
    if snapshot.seq.value < newer.value then
      return (worker, .ok (.discarded snapshot.seq newer))
    else
      commit collaborators worker assignment metrics
  | .ok none => commit collaborators worker assignment metrics

/-- One tick, its groups matched on an executor. -/
def tickOn (executor : Executor m) (collaborators : Collaborators m)
    (worker : Worker) (times : TickTimes) :
    m (Worker × Except TickFault TickResult) := do
  match ← collaborators.latest with
  | .error fault =>
    if fault.isTransient then return (worker, .ok .idle)
    else return (worker, .error (.source fault))
  | .ok snapshot =>
    if worker.checkpoint.isProcessed snapshot.seq then
      return (worker, .ok (.skipped snapshot.seq))
    else
      decide executor collaborators worker snapshot times

/-- One tick whose groups are matched one after the other. -/
def tick (collaborators : Collaborators m) (worker : Worker)
    (times : TickTimes) : m (Worker × Except TickFault TickResult) :=
  tickOn .inOrder collaborators worker times

end Worker

end ClusterTick
