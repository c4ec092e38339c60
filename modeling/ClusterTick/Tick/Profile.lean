import ClusterTick.Tick.Schedule
import ClusterTick.Tick.Timing

/-!
# Profiles

What the stages of a tick cost on one snapshot, on the mean of several runs,
with the decisions of the tick beside it.
-/

namespace ClusterTick

/-- The result of profiling a snapshot. -/
structure ProfileReport where
  seq : SnapshotSeq
  /-- The number of runs. -/
  repeats : UInt32
  nodes : Nat
  tasks : Nat
  users : Nat
  /-- The mean of the runs. -/
  mean : StageProfile
  startup : Nat
  suspend : Nat
  keepRunning : Nat
  notSure : Nat
  infeasible : Nat
  deriving DecidableEq, Repr, Inhabited

namespace StageProfile

/-- The stages by name, in the order in which they run. -/
def stages (profile : StageProfile) : List (String × Span) := [
  ("pre_assign", profile.preAssign),
  ("within_limits", profile.withinLimits),
  ("running", profile.running),
  ("waiting_init", profile.waiting),
  ("matching", profile.matching)]

def json (profile : StageProfile) : Json :=
  .object (profile.stages.map fun (name, span) => (name, JsonForm.toJson span))

end StageProfile

namespace ProfileReport

/-- The number of runs for a number that was asked for; there is at least
one. -/
def runs (repeats : UInt32) : UInt32 := max 1 repeats

/-- The report on a snapshot whose runs took the given time together. -/
def ofRuns (snapshot : Snapshot) (config : EngineConfig) (repeats : UInt32)
    (spent : StageProfile) : ProfileReport :=
  let assignment := (Tick.schedule snapshot config snapshot.takenAt).assignment
  { seq := snapshot.seq
    repeats := runs repeats
    nodes := snapshot.nodes.length
    tasks := snapshot.tasks.length
    users := snapshot.users.length
    mean := spent.dividedBy (runs repeats).toNat
    startup := assignment.count .startup
    suspend := assignment.count .suspend
    keepRunning := assignment.count .keepRunning
    notSure := assignment.count .notSure
    infeasible := assignment.infeasible.length }

def json (report : ProfileReport) : Json :=
  .object [
    ("seq", JsonForm.toJson report.seq),
    ("repeats", JsonForm.toJson report.repeats),
    ("nodes", .ofNat report.nodes),
    ("tasks", .ofNat report.tasks),
    ("users", .ofNat report.users),
    ("mean", report.mean.json),
    ("startup", .ofNat report.startup),
    ("suspend", .ofNat report.suspend),
    ("keep_running", .ofNat report.keepRunning),
    ("not_sure", .ofNat report.notSure),
    ("infeasible", .ofNat report.infeasible)]

end ProfileReport

end ClusterTick
