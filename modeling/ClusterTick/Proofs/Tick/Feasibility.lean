import ClusterTick.Proofs.Match.Feasibility
import ClusterTick.Proofs.Tick.Share

/-!
# Tasks that are too large for their group

No pass adds a node to a group or takes one away, so both passes turn down the
same tasks as too large: those that ask for more nodes than their group has.
-/

namespace ClusterTick.Tick

variable {prepared : Prepared}

/-- A pass sees as many nodes in a group as the working set has, whoever holds
them. -/
theorem length_nodes_groupPartition {frame : List Node}
    (hsame : frame.map Node.vacated =
      prepared.workingSet.nodes.map Node.vacated)
    (pass : MatchPass) (group : GroupName) :
    (groupPartition prepared pass frame group).nodes.length =
      prepared.workingSet.groupSize group :=
  calc
  (groupPartition prepared pass frame group).nodes.length =
      ((frame.map Node.vacated).filter fun node => node.group = group).length :=
    (WorkingSet.length_filter_vacated frame group).symm
  _ =
      ((prepared.workingSet.nodes.map Node.vacated).filter fun node =>
        node.group = group).length :=
    by rw [hsame]
  _ = prepared.workingSet.groupSize group :=
    WorkingSet.length_filter_vacated _ group

/-- Both passes see as many nodes in a group as the working set has. -/
theorem AllReady.length_nodes (hready : AllReady prepared) (pass : MatchPass)
    (group : GroupName) :
    (groupPartition prepared pass (Tick.passFrame prepared pass)
        group).nodes.length =
      prepared.workingSet.groupSize group := by
  apply length_nodes_groupPartition
  cases pass with
  | validation => rfl
  | training => exact (hready .validation).vacated_frameAfter

/-- Whether a task is queued and asks for more nodes than its group has. -/
def isTooLarge (set : WorkingSet) (task : PreparedTask) : Bool :=
  !task.task.isScheduled &&
    decide (set.groupSize task.group < task.task.nodes.toNat)

theorem AllReady.mem_share_infeasible_iff (hready : AllReady prepared)
    {pass : MatchPass} {group : GroupName} {id : TaskId} :
    id ∈ (share prepared pass group).infeasible ↔
      ∃ task ∈ matchable prepared.workingSet pass, task.group = group ∧
        task.id = id ∧ isTooLarge prepared.workingSet task := by
  have hlarge : ∀ task : PreparedTask, task.group = group →
      (groupPartition prepared pass (Tick.passFrame prepared pass)
            group).isTooLarge (candidateOf prepared task) =
        isTooLarge prepared.workingSet task := by
    intro task hgroup
    rw [Partition.isTooLarge, hready.length_nodes, isTooLarge, hgroup]
    rfl
  rw [share, groupOutcome,
    Partition.mem_run_infeasible_iff ((hready.passFrame pass).sound group)]
  constructor
  · rintro ⟨candidate, hcandidate, hid, htooLarge⟩
    obtain ⟨task, htask, hgroup, rfl⟩ :=
      mem_decided_groupPartition_iff.mp hcandidate
    exact ⟨task, htask, hgroup, hid, hlarge task hgroup ▸ htooLarge⟩
  · rintro ⟨task, htask, hgroup, hid, htooLarge⟩
    exact ⟨candidateOf prepared task,
      mem_decided_groupPartition_iff.mpr ⟨task, htask, hgroup, rfl⟩, hid,
      (hlarge task hgroup).trans htooLarge⟩

section Schedule

variable (snapshot : Snapshot) (config : EngineConfig) (decidedAt : Instant)

theorem schedule_infeasible :
    (schedule snapshot config decidedAt).assignment.infeasible =
      sortedKeys ([MatchPass.validation,
        .training].flatMap fun pass =>
          (passGroups (prepare snapshot config) pass).flatMap fun group =>
            (share (prepare snapshot config) pass group).infeasible) := by
  simp only [schedule, scheduleFinishing, assemble]
  rw [mergeSort_trainingOutcomes, trainingOutcomes_eq]
  simp [validationPhase, partitions_eq, share, passFrame, groupOutcome,
    List.flatMap_map]

theorem ordered_schedule_infeasible :
    (schedule snapshot config decidedAt).assignment.infeasible.Pairwise
      fun left right => compare left right = .lt := by
  rw [schedule_infeasible]
  exact sortedKeys_ordered _

/-- An assignment lists exactly the tasks that are too large. -/
theorem mem_schedule_infeasible_iff {id : TaskId} :
    id ∈ (schedule snapshot config decidedAt).assignment.infeasible ↔
      ∃ task ∈ (workingSet snapshot config).tasks, task.id = id ∧
        task.isMatchable ∧ isTooLarge (workingSet snapshot config) task := by
  have hready := allReady_prepare snapshot config
  rw [schedule_infeasible, mem_sortedKeys_iff]
  simp only [List.mem_flatMap, hready.mem_share_infeasible_iff]
  constructor
  · rintro ⟨pass, -, group, -, task, htask, -, hid, hlarge⟩
    obtain ⟨hmem, -, hmatchable⟩ := mem_matchable_iff.mp htask
    exact ⟨task, hmem, hid, hmatchable, hlarge⟩
  · rintro ⟨task, hmem, hid, hmatchable, hlarge⟩
    have htask :
        task ∈ matchable (workingSet snapshot config) (.ofTask task.task) :=
      mem_matchable_iff.mpr ⟨hmem, MatchPass.includes_iff.mpr rfl, hmatchable⟩
    refine ⟨.ofTask task.task, ?_, task.group,
      mem_passGroups_iff.mpr ⟨task, htask, rfl⟩, task, htask, rfl, hid, hlarge⟩
    cases MatchPass.ofTask task.task <;> simp

end Schedule

end ClusterTick.Tick
