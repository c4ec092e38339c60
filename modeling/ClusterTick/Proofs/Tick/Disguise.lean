import ClusterTick.Proofs.Match.Disguise
import ClusterTick.Proofs.Tick.Assembly
import ClusterTick.Proofs.Tick.Revision

/-!
# Ticks over disguised rows

A tick over disguised rows decides as the tick over the rows themselves, as long
as the disguise does not change which priority counts.  The occupants that the
node rows name may be others as well, since the occupancy is rebuilt before
anything is decided.
-/

namespace ClusterTick

namespace Disguise

/-! ## The rules -/

/-- The second working set is the first one in disguise. -/
structure Dresses (disguise : Disguise) (before after : WorkingSet) : Prop where
  valid : after.valid = before.valid
  nodes : after.nodes = before.nodes
  users : after.users = before.users
  conflicts : after.conflicts = before.conflicts
  tasks : after.tasks = before.tasks.map disguise.prepared

section Rules

variable (disguise : Disguise)

@[simp]
theorem isChainHead_prepared (task : PreparedTask) :
    (disguise.prepared task).isChainHead = task.isChainHead := rfl

@[simp]
theorem ofTask_prepared (task : PreparedTask) :
    QuotaBucket.ofTask (disguise.prepared task) = QuotaBucket.ofTask task := by
  simp only [QuotaBucket.ofTask, task_prepared, userName_change, group_prepared]
  rfl

private theorem walkBucket_prepared (ceiling held : UInt32)
    (tasks : List PreparedTask) :
    QuotaAdmission.walkBucket ceiling held (tasks.map disguise.prepared) =
      QuotaAdmission.walkBucket ceiling held tasks := by
  induction tasks generalizing held with
  | nil => rfl
  | cons task rest ih =>
    simp only [List.map_cons, QuotaAdmission.walkBucket, ih, task_prepared,
      nodes_change, id_prepared]

private theorem mergeSort_prepared (tasks : List PreparedTask) :
    ((tasks.map disguise.prepared).mergeSort fun left right =>
        (QuotaAdmission.compareWalk left right).isLE) =
      (tasks.mergeSort fun left right =>
          (QuotaAdmission.compareWalk left right).isLE).map
        disguise.prepared := by
  symm
  apply List.map_mergeSort
  intro left _ right _
  simp only [QuotaAdmission.compareWalk, task_prepared, isScheduled_change,
    compareRank_prepared, id_prepared]

variable {disguise} {before after : WorkingSet}

theorem Dresses.bucketChecks_eq (hdresses : disguise.Dresses before after)
    (sizes : PartitionSizes) (walked : List PreparedTask)
    (bucket : QuotaBucket) :
    QuotaAdmission.bucketChecks after sizes (walked.map disguise.prepared)
        bucket =
      QuotaAdmission.bucketChecks before sizes walked bucket := by
  simp only [QuotaAdmission.bucketChecks, hdresses.users, List.filter_map,
    Function.comp_def, ofTask_prepared]
  split
  · rw [mergeSort_prepared, walkBucket_prepared]
  · simp only [List.map_map, Function.comp_def, id_prepared]

theorem Dresses.walk_eq (hdresses : disguise.Dresses before after)
    (sizes : PartitionSizes) (scope : WalkScope) :
    QuotaAdmission.walk after sizes scope =
      QuotaAdmission.walk before sizes scope := by
  have hincludes :
      ∀ task, scope.includes (disguise.change task) = scope.includes task := by
    intro task
    cases scope <;> simp [WalkScope.includes]
  have hwalked : QuotaAdmission.walked after scope =
      (QuotaAdmission.walked before scope).map disguise.prepared := by
    simp only [QuotaAdmission.walked, hdresses.tasks, List.filter_map,
      Function.comp_def, task_prepared, hincludes, isChainHead_prepared]
  have hbuckets :
      ((QuotaAdmission.walked before scope).map disguise.prepared).map
          QuotaBucket.ofTask =
        (QuotaAdmission.walked before scope).map QuotaBucket.ofTask := by
    simp only [List.map_map, Function.comp_def, ofTask_prepared]
  simp only [QuotaAdmission.walk, hwalked, hbuckets]
  exact congrArg RuleVerdict.ofChecks
    (List.flatMap_congr fun bucket _ => hdresses.bucketChecks_eq sizes _ bucket)

theorem Dresses.mayKeepRunning_eq (hdresses : disguise.Dresses before after)
    (sizes : PartitionSizes) :
    mayKeepRunning after sizes = mayKeepRunning before sizes := by
  have hheads : after.chainHeads = before.chainHeads := by
    simp only [WorkingSet.chainHeads, hdresses.tasks, List.filter_map,
      List.map_map, Function.comp_def, isChainHead_prepared, task_prepared,
      chainId_change, id_prepared]
  have hcheck : ∀ entitled task,
      keepRunningCheck after entitled (disguise.prepared task) =
        keepRunningCheck before entitled task := by
    intro entitled task
    simp only [keepRunningCheck, hheads, hdresses.conflicts, id_prepared,
      isChainHead_prepared, task_prepared, chainId_change]
  simp only [mayKeepRunning, hdresses.walk_eq, hdresses.tasks, List.filter_map,
    List.map_map, Function.comp_def, task_prepared, isScheduled_change,
    id_prepared, hcheck]

theorem Dresses.mayStart_eq (hdresses : disguise.Dresses before after) :
    mayStart after = mayStart before := by
  have hrunning :
      ∀ chain, runningAttempt? after chain = runningAttempt? before chain := by
    intro chain
    simp only [runningAttempt?, hdresses.tasks, ← List.map_reverse,
      List.find?_map, Option.map_map, Function.comp_def, task_prepared,
      isScheduled_change, chainId_change, id_prepared]
  have hcheck : ∀ task,
      startCheck after (disguise.prepared task) = startCheck before task := by
    intro task
    simp only [startCheck, hdresses.users, hrunning, isChainHead_prepared,
      task_prepared, userName_change, nodes_change, chainId_change]
  simp only [mayStart, hdresses.tasks, List.filter_map, List.map_map,
    Function.comp_def, task_prepared, isQueued_change, id_prepared, hcheck]

/-- The rules answer a disguised working set alike. -/
theorem Dresses.evaluate_eq (hdresses : disguise.Dresses before after) :
    Verdicts.evaluate after = Verdicts.evaluate before := by
  have hsizes : after.groupSize = before.groupSize :=
    WorkingSet.groupSize_congr (congrArg _ hdresses.nodes)
  rw [Verdicts.evaluate, Verdicts.evaluate, Verdicts.under, Verdicts.under,
    withinLimits, withinLimits, hsizes, hdresses.walk_eq,
    hdresses.mayKeepRunning_eq, hdresses.mayStart_eq]

end Rules

section Passes

/-! ## Both passes -/

variable {disguise : Disguise} {before after : WorkingSet} {verdicts : Verdicts}

theorem Dresses.matchable (hdresses : disguise.Dresses before after)
    (pass : MatchPass) :
    Tick.matchable after pass =
      (Tick.matchable before pass).map disguise.prepared := by
  simp only [Tick.matchable, hdresses.tasks, List.filter_map, Function.comp_def,
    task_prepared, includes_change, isMatchable_prepared]

theorem Dresses.partitions (hdresses : disguise.Dresses before after)
    (pass : MatchPass) (frame : List Node) :
    Tick.partitions ⟨after, verdicts⟩ pass frame =
      (Tick.partitions ⟨before, verdicts⟩ pass frame).map
        disguise.partition := by
  have hgroups :
      ((Tick.matchable before pass).map disguise.prepared).map
          PreparedTask.group =
        (Tick.matchable before pass).map PreparedTask.group := by
    simp only [List.map_map, Function.comp_def, group_prepared]
  simp only [Tick.partitions, hdresses.matchable, hgroups, hdresses.valid,
    List.map_map]
  refine List.map_congr_left fun group _ => ?_
  simp only [Function.comp_apply, Disguise.partition, List.filter_map,
    List.map_map, Function.comp_def, group_prepared, id_prepared]
  rfl

theorem Dresses.validationPhase (hdresses : disguise.Dresses before after) :
    Tick.validationPhase ⟨after, verdicts⟩ =
      { Tick.validationPhase ⟨before, verdicts⟩ with
        tasks :=
            (Tick.validationPhase ⟨before, verdicts⟩).tasks.map
              disguise.decided } := by
  simp only [Tick.validationPhase, hdresses.partitions, hdresses.nodes,
    List.map_map, Function.comp_def, run_partition, List.flatMap_map,
    List.map_flatMap]

/-- The outcome of a group in disguise. -/
def outcome (disguise : Disguise) (group : GroupOutcome) : GroupOutcome :=
  { group with outcome :=
      { group.outcome with tasks := group.outcome.tasks.map disguise.decided } }

theorem Dresses.trainingOutcomes (hdresses : disguise.Dresses before after)
    (phase : ValidationPhase) (tasks : List Task) :
    Tick.trainingOutcomes ⟨after, verdicts⟩ { phase with tasks } =
      (Tick.trainingOutcomes ⟨before, verdicts⟩ phase).map
        disguise.outcome := by
  simp only [Tick.trainingOutcomes, Tick.trainingPartitions,
    hdresses.partitions, List.map_map, Function.comp_def, Tick.trainingOutcome,
    run_partition]
  rfl

/-- Disguised outcomes are put together as the outcomes themselves. -/
theorem Dresses.assemble (hdresses : disguise.Dresses before after)
    (phase : ValidationPhase) (training : List GroupOutcome)
    (decidedAt other : Instant) :
    Tick.assemble after { phase with tasks := phase.tasks.map disguise.decided }
      (training.map disguise.outcome) other =
        { Tick.assemble before phase training decidedAt with
          seq := after.seq
          decidedAt := other
          tasks :=
              (Tick.assemble before phase training decidedAt).tasks.map
                disguise.decided } := by
  have hsorted :
      (training.mergeSort fun left right =>
            (compare left.group right.group).isLE).map disguise.outcome =
        (training.map disguise.outcome).mergeSort fun left right =>
          (compare left.group right.group).isLE :=
    List.map_mergeSort fun _ _ _ _ => rfl
  simp only [Tick.assemble, ← hsorted, List.map_map, Function.comp_def, outcome,
    ← List.map_flatMap, ← List.map_append, keepFirst_map disguise.id_decided,
    duplicates_keepFirst_map disguise.id_decided, hdresses.valid,
    List.flatMap_map]

end Passes

section Snapshots

/-! ## Disguised snapshots -/

/-- The second snapshot has the rows of the first one in disguise, and possibly
other occupants of its nodes.  The priorities that count are those of the rows
themselves. -/
structure Relates (disguise : Disguise) (config : EngineConfig)
    (before after : Snapshot) : Prop where
  ground : before.SameGround after
  valid : after.valid = before.valid
  tasks : after.tasks = before.tasks.map disguise.change
  priority : ∀ task,
    WorkingSet.effectivePriority (Tick.workingSet before config).users
        (disguise.change task) =
      WorkingSet.effectivePriority (Tick.workingSet before config).users task

variable {disguise : Disguise} {config : EngineConfig} {before after : Snapshot}

theorem Relates.distinctTasks
    (hrelates : disguise.Relates config before after) :
    WorkingSet.distinctTasks after config.defaultGroup =
      (WorkingSet.distinctTasks before config.defaultGroup).map
        disguise.change := by
  rw [WorkingSet.distinctTasks, hrelates.tasks,
    keepFirst_map disguise.id_change, WorkingSet.distinctTasks, List.map_map,
    List.map_map]
  exact List.map_congr_left fun task _ =>
    disguise.normalize config.defaultGroup task

private theorem isHeadAmong_change (disguise : Disguise) (tasks : List Task)
    (task : Task) :
    WorkingSet.isHeadAmong (tasks.map disguise.change) (disguise.change task) =
      WorkingSet.isHeadAmong tasks task := by
  simp only [WorkingSet.isHeadAmong, isFinished_change, List.all_map,
    Function.comp_def, chainId_change, id_change]

/-- The tasks claim the same nodes. -/
theorem ofTasks_change (disguise : Disguise) (nodes : List Node)
    (tasks : List Task) :
    NodeClaims.ofTasks nodes (tasks.map disguise.change) =
      NodeClaims.ofTasks nodes tasks := by
  have hscheduled : (tasks.map disguise.change).filter Task.isScheduled =
      (tasks.filter Task.isScheduled).map disguise.change := by
    simp only [List.filter_map, Function.comp_def, isScheduled_change]
  rw [NodeClaims.ofTasks, hscheduled, List.foldl_map]
  simp only [NodeClaims.claimAll, id_change, assignedNodes_change]
  rfl

/-- The nodes have the same holders, and the same listings are contested. -/
theorem Relates.claims_eq (hrelates : disguise.Relates config before after) :
    NodeClaims.ofTasks (WorkingSet.activeNodes after config.defaultGroup)
        (WorkingSet.distinctTasks after config.defaultGroup) =
      NodeClaims.ofTasks (WorkingSet.activeNodes before config.defaultGroup)
        (WorkingSet.distinctTasks before config.defaultGroup) := by
  rw [hrelates.distinctTasks, ofTasks_change]
  exact NodeClaims.ofTasks_congr
    (hrelates.ground.vacated_activeNodes config.defaultGroup)

/-- The working sets are related as the snapshots are. -/
theorem Relates.dresses (hrelates : disguise.Relates config before after) :
    disguise.Dresses (Tick.workingSet before config)
      (Tick.workingSet after config) where
  valid := congrArg (· && !config.dryRun) hrelates.valid
  users := hrelates.ground.users_eq config
  nodes := congrArg NodeClaims.nodes hrelates.claims_eq
  conflicts := congrArg NodeClaims.conflicts hrelates.claims_eq
  tasks := by
    have husers := hrelates.ground.users_eq config
    have hpriority := hrelates.priority
    simp only [Tick.workingSet, WorkingSet.ofSnapshot] at husers hpriority ⊢
    rw [husers, hrelates.distinctTasks, List.map_map, List.map_map]
    refine List.map_congr_left fun task _ => ?_
    simp only [Function.comp_apply, prepared, isHeadAmong_change, hpriority]

/-- A tick over disguised rows decides as the tick over the rows themselves. -/
theorem Relates.schedule (hrelates : disguise.Relates config before after)
    (decidedAt other : Instant) :
    (Tick.schedule after config other).assignment =
      { (Tick.schedule before config decidedAt).assignment with
        seq := after.seq
        decidedAt := other
        tasks := (Tick.schedule before config decidedAt).assignment.tasks.map
          disguise.decided } := by
  have hdresses := hrelates.dresses
  have hverdicts := hdresses.evaluate_eq
  simp only [Tick.schedule, Tick.scheduleFinishing, Tick.prepare, hverdicts,
    hdresses.validationPhase, hdresses.trainingOutcomes]
  exact hdresses.assemble _ _ decidedAt other

theorem Relates.schedule_of_seq
    (hrelates : disguise.Relates config before after)
    (hseq : after.seq = before.seq) (decidedAt other : Instant) :
    (Tick.schedule after config other).assignment =
      { (Tick.schedule before config decidedAt).assignment with
        decidedAt := other
        tasks := (Tick.schedule before config decidedAt).assignment.tasks.map
          disguise.decided } := by
  rw [hrelates.schedule decidedAt other, hseq]
  rfl

/-- It finds the same irregularities, apart from occupants that do not hold. -/
theorem Relates.stats (hrelates : disguise.Relates config before after) :
    (Tick.workingSet after config).stats =
      { (Tick.workingSet before config).stats with
        staleOccupancy :=
            (Tick.workingSet after config).stats.staleOccupancy } := by
  have hrows : after.nodes.length = before.nodes.length := by
    simpa using congrArg List.length hrelates.ground.nodes
  have hactive : (after.nodes.filter Node.active).length =
      (before.nodes.filter Node.active).length := by
    have hvacated : ∀ nodes : List Node, (nodes.filter Node.active).length =
        ((nodes.map Node.vacated).filter Node.active).length := by
      intro nodes
      rw [List.filter_map, List.length_map]
      rfl
    rw [hvacated, hrelates.ground.nodes, ← hvacated]
  have hreported : (WorkingSet.activeNodes after config.defaultGroup).length =
      (WorkingSet.activeNodes before config.defaultGroup).length := by
    simpa using
      congrArg List.length
        (hrelates.ground.vacated_activeNodes config.defaultGroup)
  simp only [Tick.workingSet, WorkingSet.ofSnapshot, hrows, hactive, hreported,
    hrelates.ground.users, hrelates.claims_eq, hrelates.tasks,
    duplicates_keepFirst_map disguise.id_change]

/-- It finds the same irregularities if the occupants are the same. -/
theorem Relates.stats_eq (hrelates : disguise.Relates config before after)
    (hnodes : after.nodes = before.nodes) :
    (Tick.workingSet after config).stats =
      (Tick.workingSet before config).stats := by
  have hreported : WorkingSet.activeNodes after config.defaultGroup =
      WorkingSet.activeNodes before config.defaultGroup := by
    rw [WorkingSet.activeNodes, hnodes, WorkingSet.activeNodes]
  have hstale : (Tick.workingSet after config).stats.staleOccupancy =
      (Tick.workingSet before config).stats.staleOccupancy := by
    simp only [Tick.workingSet, WorkingSet.ofSnapshot, hrelates.claims_eq]
    rw [hreported]
  rw [hrelates.stats, hstale]

end Snapshots

end Disguise

end ClusterTick
