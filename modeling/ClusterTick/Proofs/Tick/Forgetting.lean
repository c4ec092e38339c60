import ClusterTick.Proofs.Tick.Disguise
import ClusterTick.Proofs.Tick.PreemptionSafety

/-!
# Ticks do not look back

What a tick decides does not depend on the verdicts that earlier ticks have left
on the tasks, nor on the occupants that the node rows name, nor on the number of
the snapshot.  Two snapshots that agree in everything else are decided alike.
-/

namespace ClusterTick

/-- A task row without the verdict of a tick. -/
def Task.unjudged (task : Task) : Task :=
  { task with
    schedulerResult := .notSure
    processResult := .notSure
    schedulerMessage := "" }

/-- The removal of all verdicts.  Decided rows have a verdict of their own, so
there is nothing left to change. -/
def Disguise.forgetting : Disguise where
  change := Task.unjudged
  decided row := row
  outline _ := rfl
  id_decided _ := rfl
  withDecision _ _ _ _ := rfl
  place _ _ := rfl
  preempted _ _ := rfl
  normalize _ _ := rfl

theorem Disguise.decided_forgetting : forgetting.decided = fun row => row := rfl

/-- Two assignments decide alike and leave the nodes alike. -/
structure Assignment.Agrees (left right : Assignment) : Prop where
  tasks : left.tasks = right.tasks
  infeasible : left.infeasible = right.infeasible
  nodes : left.nodes = right.nodes

theorem Assignment.agrees_withHeader (assignment : Assignment)
    (seq : SnapshotSeq) (decidedAt : Instant) :
    { assignment with seq, decidedAt }.Agrees assignment :=
  ⟨rfl, rfl, rfl⟩

/-- What a tick reads of a snapshot. -/
def Snapshot.unjudged (snapshot : Snapshot) : Snapshot :=
  { snapshot with
    seq := ⟨0⟩
    takenAt := default
    nodes := snapshot.nodes.map Node.vacated
    tasks := snapshot.tasks.map Task.unjudged }

/-- A snapshot without the columns that ticks derive: the occupants of the
nodes, and the verdicts on the tasks. -/
def Snapshot.underived (snapshot : Snapshot) : Snapshot :=
  { snapshot with
    nodes := snapshot.nodes.map Node.vacated
    tasks := snapshot.tasks.map Task.unjudged }

theorem Assignment.eq_of_withDecidedAt {left right : Assignment}
    {decidedAt : Instant}
    (hsame : { left with decidedAt } = { right with decidedAt }) :
    { left with decidedAt := right.decidedAt } = right :=
  congrArg
    (fun assignment : Assignment =>
      { assignment with decidedAt := right.decidedAt })
    hsame

theorem WorkingSetStats.eq_of_withStaleOccupancy {left right : WorkingSetStats}
    {staleOccupancy : Nat}
    (hsame : { left with staleOccupancy } = { right with staleOccupancy }) :
    { left with staleOccupancy := right.staleOccupancy } = right :=
  congrArg (fun stats : WorkingSetStats =>
    { stats with staleOccupancy := right.staleOccupancy }) hsame

section Relates

variable (snapshot : Snapshot) (config : EngineConfig)

theorem Snapshot.sameGround_underived :
    snapshot.SameGround snapshot.underived where
  users := rfl
  nodes := by
    rw [underived, List.map_map]
    rfl

theorem Disguise.relates_underived :
    forgetting.Relates config snapshot snapshot.underived where
  ground := snapshot.sameGround_underived
  valid := rfl
  tasks := rfl
  priority _ := rfl

theorem Disguise.relates_unjudged :
    forgetting.Relates config snapshot snapshot.unjudged where
  ground := ⟨rfl, snapshot.sameGround_underived.nodes⟩
  valid := rfl
  tasks := rfl
  priority _ := rfl

end Relates

namespace Tick

variable (snapshot : Snapshot) (config : EngineConfig)

/-- A tick decides alike on a snapshot and on what it reads of it. -/
theorem schedule_unjudged (decidedAt other : Instant) :
    (schedule snapshot.unjudged config other).assignment.Agrees
      (schedule snapshot config decidedAt).assignment := by
  rw [(Disguise.relates_unjudged snapshot config).schedule decidedAt other,
    Disguise.decided_forgetting, List.map_id']
  exact Assignment.agrees_withHeader _ _ _

/-- So two snapshots of which it reads the same are decided alike. -/
theorem schedule_congr {left right : Snapshot}
    (hsame : left.unjudged = right.unjudged) (decidedAt other : Instant) :
    (schedule left config decidedAt).assignment.Agrees
      (schedule right config other).assignment := by
  have hleft := schedule_unjudged left config decidedAt decidedAt
  have hright := schedule_unjudged right config other decidedAt
  rw [hsame] at hleft
  exact ⟨hleft.tasks.symm.trans hright.tasks,
    hleft.infeasible.symm.trans hright.infeasible,
    hleft.nodes.symm.trans hright.nodes⟩

private theorem schedule_stats (decidedAt : Instant) :
    (schedule snapshot config decidedAt).stats =
      (workingSet snapshot config).stats :=
  rfl

/-- Derived columns that are out of date influence nothing but their own
count. -/
theorem schedule_of_underived {left right : Snapshot}
    (hsame : left.underived = right.underived) (decidedAt other : Instant) :
      { (schedule left config decidedAt).assignment with
          decidedAt := (schedule right config other).assignment.decidedAt } =
            (schedule right config other).assignment ∧
        { (schedule left config decidedAt).stats with
          staleOccupancy :=
            (schedule right config other).stats.staleOccupancy } =
          (schedule right config other).stats := by
  have hleft := Disguise.relates_underived left config
  have hright := Disguise.relates_underived right config
  have hassignment : (schedule left.underived config default).assignment =
      (schedule right.underived config default).assignment := by rw [hsame]
  rw [hleft.schedule_of_seq rfl decidedAt default,
    hright.schedule_of_seq rfl other default, Disguise.decided_forgetting,
    List.map_id', List.map_id'] at hassignment
  rw [schedule_stats, schedule_stats]
  have hstats : (workingSet left.underived config).stats =
      (workingSet right.underived config).stats := by rw [hsame]
  rw [hleft.stats, hright.stats, hsame] at hstats
  exact ⟨Assignment.eq_of_withDecidedAt hassignment,
    WorkingSetStats.eq_of_withStaleOccupancy hstats⟩

/-- The preemption of the urgent task, with columns that say the contrary: the
node is given to a task that is not there, and the running task counts as
suspended already. -/
def misreportedTask : Snapshot :=
  { urgentTask with
    nodes := urgentTask.nodes.map fun node => { node with working := some ⟨7⟩ }
    tasks := urgentTask.tasks.map fun task =>
      { task with
        schedulerResult := .cannotRun
        processResult := .suspend
        schedulerMessage := "preempted by task 7" } }

/-- It is decided as before, but the occupancy of the node counts as out of
date. -/
theorem schedule_of_underived_misreportedTask :
    misreportedTask.underived = urgentTask.underived ∧
      (schedule misreportedTask {} default).stats.staleOccupancy = 1 ∧
      { (schedule misreportedTask {} default).assignment with
        decidedAt := (schedule urgentTask {} default).assignment.decidedAt } =
          (schedule urgentTask {} default).assignment ∧
      { (schedule misreportedTask {} default).stats with
        staleOccupancy :=
          (schedule urgentTask {} default).stats.staleOccupancy } =
        (schedule urgentTask {} default).stats :=
  have hsame : misreportedTask.underived = urgentTask.underived := by decide
  ⟨hsame, by decide +kernel, schedule_of_underived {} hsame default default⟩

end Tick

end ClusterTick
