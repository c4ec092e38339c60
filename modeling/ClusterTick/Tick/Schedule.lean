import ClusterTick.Match.Pass
import ClusterTick.Model.Assignment
import ClusterTick.Rules.Eligibility

/-!
# Scheduling a tick

A tick decides on one snapshot.  The working set is built and judged by the
rules; validation tasks are matched first, and training tasks on the nodes that
are left.  Both passes go group by group.  The outcomes of the groups are put
together in the order of the group names, so it does not matter in which order
the groups are finished.
-/

namespace ClusterTick

/-- The settings of the scheduler. -/
structure EngineConfig where
  /-- The group of nodes and tasks that name none. -/
  defaultGroup : GroupName := ⟨"default"⟩
  /-- Decide without preemption, as if the snapshot were not valid. -/
  dryRun : Bool := false
  deriving DecidableEq, Repr, Inhabited

/-- A working set and the answers of the rules. -/
structure Prepared where
  workingSet : WorkingSet
  verdicts : Verdicts
  deriving DecidableEq, Repr, Inhabited

/-- What the validation pass leaves behind. -/
structure ValidationPhase where
  /-- The nodes that the training pass starts from, in the order of their
  names. -/
  frame : List Node
  tasks : List Task
  infeasible : List TaskId
  deriving DecidableEq, Repr, Inhabited

/-- What the training pass makes of a group. -/
structure GroupOutcome where
  group : GroupName
  outcome : MatchOutcome
  deriving DecidableEq, Repr, Inhabited

/-- The result of a tick. -/
structure TickOutput where
  assignment : Assignment
  stats : WorkingSetStats
  deriving DecidableEq, Repr, Inhabited

namespace Tick

/-- The working set of a snapshot under the given settings. -/
def workingSet (snapshot : Snapshot) (config : EngineConfig) : WorkingSet :=
  let set := WorkingSet.ofSnapshot snapshot config.defaultGroup
  { set with valid := set.valid && !config.dryRun }

/-- The working set of a snapshot and the answers of the rules. -/
def prepare (snapshot : Snapshot) (config : EngineConfig) : Prepared :=
  let set := workingSet snapshot config
  ⟨set, Verdicts.evaluate set⟩

/-- The tasks of the working set that a pass decides on. -/
def matchable (set : WorkingSet) (pass : MatchPass) : List PreparedTask :=
  set.tasks.filter fun prepared =>
    pass.includes prepared.task && prepared.isMatchable

/-- The partitions of a pass over a frame of nodes: one for each group with a
task to decide on, in the order of the group names. -/
def partitions (prepared : Prepared) (pass : MatchPass) (frame : List Node) :
    List Partition :=
  let tasks := matchable prepared.workingSet pass
  (sortedKeys (tasks.map PreparedTask.group)).map fun group =>
    { group
      valid := prepared.workingSet.valid
      nodes := frame.filter fun node => node.group = group
      candidates :=
        (tasks.filter fun task => task.group = group).map fun task =>
          ⟨task, prepared.verdicts.forTask task.id⟩ }

/-- One row for each node, the last one, in the order of their names. -/
def mergeNodes (rows : List Node) : List Node :=
  (keepLast rows Node.name).items.mergeSort fun left right =>
    (compare left.name right.name).isLE

/-- The validation pass over all groups. -/
def validationPhase (prepared : Prepared) : ValidationPhase :=
  let nodes := prepared.workingSet.nodes
  let outcomes := (partitions prepared .validation nodes).map fun partition =>
    partition.run .validation
  { frame := mergeNodes (nodes ++ outcomes.flatMap MatchOutcome.nodes)
    tasks := outcomes.flatMap MatchOutcome.tasks
    infeasible := outcomes.flatMap MatchOutcome.infeasible }

/-- The partitions of the training pass. -/
def trainingPartitions (prepared : Prepared) (phase : ValidationPhase) :
    List Partition :=
  partitions prepared .training phase.frame

/-- The training pass over a group. -/
def trainingOutcome (partition : Partition) : GroupOutcome :=
  ⟨partition.group, partition.run .training⟩

/-- The training pass over all groups. -/
def trainingOutcomes (prepared : Prepared) (phase : ValidationPhase) :
    List GroupOutcome :=
  (trainingPartitions prepared phase).map trainingOutcome

/-- Puts both passes together.  The last row of a node counts, and the first row
of a task. -/
def assemble (set : WorkingSet) (phase : ValidationPhase)
    (training : List GroupOutcome) (decidedAt : Instant) : Assignment :=
  let ordered :=
    training.mergeSort fun left right => (compare left.group right.group).isLE
  let outcomes := ordered.map GroupOutcome.outcome
  let tasks :=
    keepFirst (phase.tasks ++ outcomes.flatMap MatchOutcome.tasks) Task.id
  { seq := set.seq
    valid := set.valid
    decidedAt
    nodes := mergeNodes (phase.frame ++ outcomes.flatMap MatchOutcome.nodes)
    tasks := tasks.items
    infeasible :=
      sortedKeys (phase.infeasible ++ outcomes.flatMap MatchOutcome.infeasible)
    collisions := UInt64.ofNat tasks.duplicates }

/-- A tick whose training groups are finished in an order of its own. -/
def scheduleFinishing (finish : List GroupOutcome → List GroupOutcome)
    (snapshot : Snapshot) (config : EngineConfig) (decidedAt : Instant) :
    TickOutput :=
  let prepared := prepare snapshot config
  let phase := validationPhase prepared
  let training := finish (trainingOutcomes prepared phase)
  ⟨assemble prepared.workingSet phase training decidedAt,
    prepared.workingSet.stats⟩

/-- A tick that matches one group after the other. -/
def schedule (snapshot : Snapshot) (config : EngineConfig)
    (decidedAt : Instant) : TickOutput :=
  scheduleFinishing (fun outcomes => outcomes) snapshot config decidedAt

end Tick

end ClusterTick
