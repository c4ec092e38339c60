import ClusterTick.Proofs.Match.Deference
import ClusterTick.Proofs.Tick.Overtaking
import ClusterTick.Proofs.Tick.Submission

/-!
# Less urgent submissions do not disturb

Queued training tasks of at most some priority take quota, nodes and victims
from tasks that come after them only.  The quota walk comes to all scheduled
tasks and to the more urgent ones before, and to the validation tasks in buckets
of their own, unless a user has one in the group of the submission.
-/

namespace ClusterTick

namespace PreparedTask

theorem Outranks.isAhead {task : PreparedTask} {priority : Int32}
    (houtranks : task.Outranks priority) : task.isAhead priority := by
  rw [PreparedTask.isAhead, Bool.or_eq_true, decide_eq_true_eq]
  exact houtranks.elim (fun hwaiting => Or.inr hwaiting.2) fun hscheduled =>
    Or.inl hscheduled.1

end PreparedTask

namespace Tick

section Below

variable {before after : Snapshot} {extra : List Task} {config : EngineConfig}
  {priority : Int32}
variable {task : PreparedTask} {group : GroupName}
variable (hsubmission : Submission before after extra)
variable (hbelow : ∀ row ∈ extra,
  WorkingSet.effectivePriority (workingSet before config).users row ≤ priority)

include hsubmission hbelow

theorem effectivePriority_of_extra : ∀ task ∈ (workingSet after config).tasks,
    task.id ∈ extra.map Task.id → task.effectivePriority ≤ priority := by
  intro task htask hid
  obtain ⟨row, hrow, hsame⟩ := hsubmission.exists_extra_of_id config htask hid
  rw [(consistent_workingSet after config).priority task htask, hsame,
    hsubmission.users_workingSet]
  exact hbelow row hrow

/-- Tasks that the quota walk comes to before get the verdicts that they got
without the submission. -/
theorem forTask_of_isAhead (htask : task ∈ (workingSet before config).tasks)
    (hahead : task.isAhead priority) :
    (prepare after config).verdicts.forTask task.id =
      (prepare before config).verdicts.forTask task.id := by
  have hgains := hsubmission.gains config
  apply hgains.forTask_eq htask
  exact hgains.check_withinLimits_eq
    (effectivePriority_of_extra hsubmission hbelow) htask hahead

variable (hspared : ∀ row ∈ extra, ∀ task ∈ (workingSet before config).tasks,
  task.task.isQueued → task.task.isValidation →
  task.task.userName = row.userName →
  task.group ≠ (WorkingSet.normalizeTask config.defaultGroup row).group)

include hspared

/-- So do the validation tasks. -/
theorem forTask_of_isValidation
    (htask : task ∈ matchable (workingSet before config) .validation) :
    (prepare after config).verdicts.forTask task.id =
      (prepare before config).verdicts.forTask task.id := by
  obtain ⟨hmem, hvalidation, hmatchable⟩ := mem_matchable_iff.mp htask
  cases hscheduled : task.task.isScheduled with
  | true =>
    apply forTask_of_isAhead hsubmission hbelow hmem
    rw [PreparedTask.isAhead, hscheduled, Bool.true_or]
  | false =>
    -- The walk may come to the extra tasks first, but not in the bucket of this
    -- one.
    have hgains := hsubmission.gains config
    have hqueued : task.task.isQueued :=
      PreparedTask.isQueued_of_isMatchable hmatchable hscheduled
    apply hgains.forTask_eq hmem
    apply hgains.check_withinLimits_of_bucket hmem
    intro other hother hid hbucket
    obtain ⟨row, hrow, hsame⟩ :=
      hsubmission.exists_extra_of_id config hother hid
    have huser : other.task.userName = task.task.userName :=
      congrArg QuotaBucket.user hbucket
    have hgroup : other.group = task.group :=
      congrArg (fun bucket : QuotaBucket => bucket.slot.group) hbucket
    rw [hsame] at huser
    rw [PreparedTask.group, hsame] at hgroup
    exact hspared row hrow task hmem hqueued hvalidation huser.symm hgroup.symm

variable (htraining : ∀ row ∈ extra, row.isValidation = false)

include htraining

/-- The validation pass does not see the submission. -/
theorem share_validation_eq (group : GroupName) :
    share (prepare after config) .validation group =
      share (prepare before config) .validation group := by
  have hgains := hsubmission.gains config
  apply congrArg (Partition.run · .validation)
  apply hgains.groupPartition_eq
  · intro task htask hid hincludes
    obtain ⟨row, hrow, hsame⟩ := hsubmission.exists_extra_of_id config htask hid
    have hvalidation : task.task.isValidation = false := by
      rw [hsame]
      exact htraining row hrow
    exact absurd hincludes (by simp [MatchPass.includes, hvalidation])
  · intro task htask _
    exact forTask_of_isValidation hsubmission hbelow hspared htask
  · exact congrArg _ hgains.nodes

/-- The training pass over a group starts from the same nodes and the same tasks
above the priority. -/
theorem agreesAbove_training (group : GroupName) :
    Partition.AgreesAbove .training priority
      (groupPartition (prepare after config) .training
        (trainingFrame (prepare after config)) group)
      (groupPartition (prepare before config) .training
        (trainingFrame (prepare before config)) group) where
  group := by rw [group_groupPartition, group_groupPartition]
  valid := (hsubmission.gains config).valid
  nodes := by
    have hvalidated :=
      share_validation_eq hsubmission hbelow hspared htraining group
    exact filter_trainingFrame_congr (allReady_prepare after config)
      (allReady_prepare before config) (congrArg MatchOutcome.nodes hvalidated)
  holding := by
    have hgains := hsubmission.gains config
    apply hgains.filter_decided_eq fun task => task.task.isScheduled
    · intro task htask hid _ _
      exact hgains.isScheduled_of_extra htask hid
    · intro task htask _ hscheduled
      apply forTask_of_isAhead hsubmission hbelow (mem_matchable_iff.mp htask).1
      rw [PreparedTask.isAhead, hscheduled, Bool.true_or]
  waiting := by
    have hgains := hsubmission.gains config
    rw [Partition.waiting, Partition.waiting, List.filter_filter,
      List.filter_filter]
    apply hgains.filter_decided_eq fun task =>
      decide (priority < task.effectivePriority) && !task.task.isScheduled
    · intro task htask hid _ _
      have hnot : ¬ priority < task.effectivePriority :=
        Int32.not_lt.mpr
          (effectivePriority_of_extra hsubmission hbelow task htask hid)
      rw [decide_eq_false hnot, Bool.false_and]
    · intro task htask _ habove
      apply forTask_of_isAhead hsubmission hbelow (mem_matchable_iff.mp htask).1
      rw [PreparedTask.isAhead, (Bool.and_eq_true_iff.mp habove).1,
        Bool.or_true]

/-- Tasks that the submission cannot outrank have the rows that they had without
it. -/
theorem mem_share_iff_of_outranks
    (htask : task ∈ (workingSet before config).tasks)
    (houtranks : task.Outranks priority) {row : Task} (hid : row.id = task.id)
    (pass : MatchPass) :
    row ∈ (share (prepare after config) pass task.group).tasks ↔
      row ∈ (share (prepare before config) pass task.group).tasks := by
  have hafter := allReady_prepare after config
  have hbefore := allReady_prepare before config
  have hmem : task ∈ (workingSet after config).tasks :=
    ((hsubmission.gains config).mem_iff.mp htask).1
  cases pass with
  | validation => rw [share_validation_eq hsubmission hbelow hspared htraining]
  | training =>
    by_cases hmatchable : MatchPass.training.includes task.task ∧
      task.isMatchable
    · have hcandidate : candidateOf (prepare after config) task =
          candidateOf (prepare before config) task := by
        rw [candidateOf, candidateOf,
          forTask_of_isAhead hsubmission hbelow htask houtranks.isAhead]
      have hafterDecided : candidateOf (prepare before config) task ∈
          (groupPartition (prepare after config) .training
              (trainingFrame (prepare after config)) task.group).decided
            .training :=
        mem_decided_groupPartition_iff.mpr
          ⟨task, mem_matchable_iff.mpr ⟨hmem, hmatchable⟩, rfl, hcandidate⟩
      have hbeforeDecided : candidateOf (prepare before config) task ∈
          (groupPartition (prepare before config) .training
              (trainingFrame (prepare before config)) task.group).decided
            .training :=
        mem_decided_groupPartition_iff.mpr
          ⟨task, mem_matchable_iff.mpr ⟨htask, hmatchable⟩, rfl, rfl⟩
      have hagrees :=
        agreesAbove_training hsubmission hbelow hspared htraining task.group
      exact hagrees.mem_run_iff (hafter.training.sound _)
        (hbefore.training.sound _) hafterDecided hbeforeDecided houtranks hid
    · constructor
      · intro hrow
        exact absurd
          (mem_matchable_iff.mp
            (hafter.training.ruling_of_id hmem hid hrow).1).2
          hmatchable
      · intro hrow
        exact absurd
          (mem_matchable_iff.mp
            (hbefore.training.ruling_of_id htask hid hrow).1).2
          hmatchable

end Below

/-- A queued training task disturbs no waiting task that is more urgent and no
scheduled task that is as urgent, unless its user has a validation task queued
in its group. -/
theorem undisturbed_of_outranks {before after : Snapshot} {row : Task}
    (hsubmission : Submission before after [row]) (config : EngineConfig)
    (htraining : row.isValidation = false)
    (hspared : ∀ task ∈ (workingSet before config).tasks, task.task.isQueued →
      task.task.isValidation → task.task.userName = row.userName →
      task.group ≠ (WorkingSet.normalizeTask config.defaultGroup row).group)
    (decidedAt other : Instant) :
    ∀ task ∈ (workingSet before config).tasks,
      task.Outranks
        (WorkingSet.effectivePriority (workingSet before config).users row) →
      (schedule after config decidedAt).assignment.decision? task.id =
        (schedule before config other).assignment.decision? task.id := by
  intro task htask houtranks
  have hafter := allReady_prepare after config
  have hbefore := allReady_prepare before config
  have hmem : task ∈ (workingSet after config).tasks :=
    ((hsubmission.gains config).mem_iff.mp htask).1
  apply Option.ext
  intro found
  rw [Assignment.decision?, Assignment.decision?, schedule_tasks,
    schedule_tasks, find?_key_eq_some_iff hafter.nodup_tickRows,
    find?_key_eq_some_iff hbefore.nodup_tickRows]
  apply and_congr_left
  intro hid
  rw [hafter.mem_tickRows_of_id hmem hid, hbefore.mem_tickRows_of_id htask hid]
  apply mem_share_iff_of_outranks hsubmission _ _ _ htask houtranks hid
  · intro extra hextra
    rw [List.mem_singleton.mp hextra]
    exact Int32.le_refl _
  · intro extra hextra
    rw [List.mem_singleton.mp hextra]
    exact hspared
  · intro extra hextra
    rw [List.mem_singleton.mp hextra]
    exact htraining

/-- A task that comes before the last one of the contended nodes in the same
bucket. -/
def rivalWork : Task where
  id := ⟨0⟩
  chainId := ⟨"c0"⟩
  firstId := ⟨0⟩
  userName := ⟨"alice"⟩
  group := ⟨"train"⟩
  priority := 20
  nodes := 2

/-- It takes the quota, the nodes and the victim of that task.  The urgent
holder and the task that waits for all nodes have the rows that they had without
it. -/
theorem undisturbed_of_outranks_rivalWork :
    Submission contendedNodes
        { contendedNodes with tasks := contendedNodes.tasks ++ [rivalWork] }
        [rivalWork] ∧
      rivalWork.isValidation = false ∧
      (∀ task ∈ (workingSet contendedNodes {}).tasks, task.task.isQueued →
        task.task.isValidation → task.task.userName = rivalWork.userName →
        task.group ≠ (WorkingSet.normalizeTask ⟨"default"⟩ rivalWork).group) ∧
      ∀ id ∈ [(⟨1⟩ : TaskId), ⟨3⟩],
        ∃ task ∈ (workingSet contendedNodes {}).tasks, task.id = id ∧
          task.Outranks (WorkingSet.effectivePriority
            (workingSet contendedNodes {}).users rivalWork) ∧
          (schedule
                { contendedNodes with
                  tasks := contendedNodes.tasks ++ [rivalWork] }
                {} default).assignment.decision? task.id =
            (schedule contendedNodes {} default).assignment.decision?
              task.id := by
  have hsubmission : Submission contendedNodes
      { contendedNodes with tasks := contendedNodes.tasks ++ [rivalWork] }
      [rivalWork] :=
    Submission.append (by decide) (by decide) (by decide) (by decide)
  have hspared : ∀ task ∈ (workingSet contendedNodes {}).tasks,
      task.task.isQueued → task.task.isValidation →
      task.task.userName = rivalWork.userName →
      task.group ≠ (WorkingSet.normalizeTask ⟨"default"⟩ rivalWork).group := by
    decide +kernel
  have habove : ∀ id ∈ [(⟨1⟩ : TaskId), ⟨3⟩],
      ∃ task ∈ (workingSet contendedNodes {}).tasks, task.id = id ∧
        task.Outranks (WorkingSet.effectivePriority
          (workingSet contendedNodes {}).users rivalWork) := by
    decide +kernel
  refine ⟨hsubmission, rfl, hspared, fun id hid => ?_⟩
  obtain ⟨task, htask, htaskId, houtranks⟩ := habove id hid
  exact ⟨task, htask, htaskId, houtranks,
    undisturbed_of_outranks hsubmission {} rfl hspared default default task
      htask houtranks⟩

end Tick

end ClusterTick
