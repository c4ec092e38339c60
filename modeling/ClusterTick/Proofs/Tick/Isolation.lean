import ClusterTick.Proofs.Tick.PreemptionSafety
import ClusterTick.Proofs.Tick.Submission

/-!
# Groups are isolated

Users, quota and chains are shared by all groups, and the frames of all groups
are merged between the passes.  Still a submission to other groups changes
nothing in a group: its buckets gain no task, so its tasks get the answers that
they got before, and each pass over it starts from the same nodes.
-/

namespace ClusterTick

namespace WorkingSet.Gains

variable {before after : WorkingSet} {extra : List TaskId} {group : GroupName}
variable (hgains : before.Gains after extra)
variable (hspared : ∀ task ∈ after.tasks, task.id ∈ extra → task.group ≠ group)

include hgains hspared

/-- The tasks of a group get the verdicts that they got before. -/
theorem forTask_of_spared {task : PreparedTask} (htask : task ∈ before.tasks)
    (hgroup : task.group = group) :
    (Verdicts.evaluate after).forTask task.id =
      (Verdicts.evaluate before).forTask task.id := by
  apply hgains.forTask_eq htask
  apply hgains.check_withinLimits_of_bucket htask
  intro other hother hid hbucket
  have hsame : other.group = task.group :=
    congrArg (fun bucket : QuotaBucket => bucket.slot.group) hbucket
  exact hspared other hother hid (hsame.trans hgroup)

/-- A pass over a group that starts from the same nodes is the same. -/
theorem groupPartition_of_spared {pass : MatchPass} {earlier later : List Node}
    (hframe : later.filter (fun node => node.group = group) =
      earlier.filter fun node => node.group = group) :
    Tick.groupPartition ⟨after, Verdicts.evaluate after⟩ pass later group =
      Tick.groupPartition ⟨before, Verdicts.evaluate before⟩ pass earlier
        group := by
  apply hgains.groupPartition_eq
  · intro task htask hid _
    exact hspared task htask hid
  · intro task htask hgroup
    exact hgains.forTask_of_spared hspared (Tick.mem_matchable_iff.mp htask).1
      hgroup
  · exact hframe

end WorkingSet.Gains

namespace Tick

section Submission

variable {before after : Snapshot} {extra : List Task} {config : EngineConfig}
  {group : GroupName}
variable (hsubmission : Submission before after extra)
variable (hspared : ∀ row ∈ extra,
  (WorkingSet.normalizeTask config.defaultGroup row).group ≠ group)

include hsubmission hspared

private theorem group_of_extra : ∀ task ∈ (workingSet after config).tasks,
    task.id ∈ extra.map Task.id → task.group ≠ group := by
  intro task htask hid
  obtain ⟨row, hrow, hsame⟩ := hsubmission.exists_extra_of_id config htask hid
  rw [PreparedTask.group, hsame]
  exact hspared row hrow

/-- Neither pass over a group sees what is submitted to others. -/
theorem share_of_spared (pass : MatchPass) :
    share (prepare after config) pass group =
      share (prepare before config) pass group := by
  have hgains := hsubmission.gains config
  have hothers := group_of_extra hsubmission hspared
  have hvalidation : share (prepare after config) .validation group =
      share (prepare before config) .validation group := by
    apply congrArg (Partition.run · .validation)
    apply hgains.groupPartition_of_spared hothers
    exact congrArg _ hgains.nodes
  cases pass with
  | validation => exact hvalidation
  | training =>
    apply congrArg (Partition.run · .training)
    apply hgains.groupPartition_of_spared hothers
    exact filter_trainingFrame_congr (allReady_prepare after config)
      (allReady_prepare before config) (congrArg MatchOutcome.nodes hvalidation)

end Submission

/-- A submission to other groups leaves every row and every node of a group as
they were. -/
theorem isolated_schedule {before after : Snapshot} {extra : List Task}
    (hsubmission : Submission before after extra) (config : EngineConfig)
    (group : GroupName)
    (hspared : ∀ row ∈ extra,
      (WorkingSet.normalizeTask config.defaultGroup row).group ≠ group)
    (decidedAt other : Instant) :
    (schedule after config decidedAt).assignment.tasks.filter
          (fun row => row.group = group) =
        (schedule before config other).assignment.tasks.filter
          (fun row => row.group = group) ∧
      (schedule after config decidedAt).assignment.nodes.filter
          (fun node => node.group = group) =
        (schedule before config other).assignment.nodes.filter fun node =>
          node.group = group := by
  have hafter := allReady_prepare after config
  have hbefore := allReady_prepare before config
  have hshare := share_of_spared hsubmission hspared
  constructor
  · rw [schedule_tasks, schedule_tasks, hafter.filter_tickRows,
      hbefore.filter_tickRows, hshare .validation, hshare .training]
  · rw [schedule_nodes, schedule_nodes, hafter.filter_tickFrame,
      hbefore.filter_tickFrame, hshare .training]

/-- Work that the same user submits to another group: a validation task and a
training task of one chain. -/
def inferenceWork : List Task := [
  { id := ⟨3⟩
    chainId := ⟨"c3"⟩
    firstId := ⟨3⟩
    userName := ⟨"alice"⟩
    group := ⟨"infer"⟩
    taskType := .validation
    priority := 50
    nodes := 1 },
  { id := ⟨4⟩
    chainId := ⟨"c3"⟩
    firstId := ⟨3⟩
    userName := ⟨"alice"⟩
    priority := 30
    nodes := 2 }]

/-- The preemption in the first group takes place as it did without that
work. -/
theorem isolated_schedule_inferenceWork :
    Submission urgentTask
        { urgentTask with tasks := urgentTask.tasks ++ inferenceWork }
        inferenceWork ∧
      (∀ row ∈ inferenceWork,
        (WorkingSet.normalizeTask ⟨"default"⟩ row).group ≠ ⟨"train"⟩) ∧
      (schedule { urgentTask with tasks := urgentTask.tasks ++ inferenceWork }
            {} default).assignment.tasks.filter
          (fun row => row.group = ⟨"train"⟩) =
        (schedule urgentTask {} default).assignment.tasks.filter
          (fun row => row.group = ⟨"train"⟩) ∧
      (schedule { urgentTask with tasks := urgentTask.tasks ++ inferenceWork }
            {} default).assignment.nodes.filter
          (fun node => node.group = ⟨"train"⟩) =
        (schedule urgentTask {} default).assignment.nodes.filter fun node =>
          node.group = ⟨"train"⟩ := by
  have hsubmission : Submission urgentTask
      { urgentTask with tasks := urgentTask.tasks ++ inferenceWork }
      inferenceWork :=
    Submission.append (by decide) (by decide) (by decide) (by decide)
  have hspared : ∀ row ∈ inferenceWork,
      (WorkingSet.normalizeTask ⟨"default"⟩ row).group ≠ ⟨"train"⟩ := by
    decide
  exact ⟨hsubmission, hspared,
    isolated_schedule hsubmission {} ⟨"train"⟩ hspared default default⟩

end Tick

end ClusterTick
