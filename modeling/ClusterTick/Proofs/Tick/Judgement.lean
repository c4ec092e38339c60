import ClusterTick.Proofs.Rules.Scope
import ClusterTick.Proofs.Tick.Assembly
import Mathlib.Data.List.MinMax

/-!
# Whoever is matched has been judged

A matcher asks the rules about scheduled tasks and about the latest queued
attempts of chains, and those are in the scopes of the rules that it asks.  So
nobody is suspended or held back for want of a judgement, and no row says so.
-/

namespace ClusterTick

namespace WorkingSet

/-- The latest of the attempts that are not finished is the head of their
chain. -/
theorem hasHeads_ofSnapshot (snapshot : Snapshot) (defaultGroup : GroupName) :
    (ofSnapshot snapshot defaultGroup).HasHeads := by
  intro task htask hscheduled
  let attempts := (distinctTasks snapshot defaultGroup).filter fun other =>
    !other.isFinished && other.chainId = task.task.chainId
  have hmem_attempts : ∀ other,
      other ∈ attempts ↔
        other ∈ distinctTasks snapshot defaultGroup ∧ other.isFinished = false ∧
          other.chainId = task.task.chainId := by
    simp [attempts]
  have hopen : task.task.isFinished = false := by
    simp_all [Task.isScheduled, Task.isFinished]
  have hself : task.task ∈ attempts := (hmem_attempts _).mpr
    ⟨mem_ofSnapshot_tasks snapshot defaultGroup htask, hopen, rfl⟩
  have hsome : attempts.argmax (fun other => other.id.value.toNat) ≠ none :=
    mt List.argmax_eq_none.mp (List.ne_nil_of_mem hself)
  obtain ⟨latest, hlatest⟩ := Option.ne_none_iff_exists'.mp hsome
  obtain ⟨hmem, hlatestOpen, hchain⟩ :=
    (hmem_attempts _).mp (List.argmax_mem hlatest)
  refine ⟨_, List.mem_map_of_mem hmem, isHeadAmong_iff.mpr ⟨hlatestOpen, ?_⟩,
    hchain⟩
  intro other hother hotherOpen hotherChain
  have hattempt : other ∈ attempts :=
    (hmem_attempts _).mpr ⟨hother, hotherOpen, hotherChain.trans hchain⟩
  have hle : other.id.value.toNat ≤ latest.id.value.toNat :=
    List.le_of_mem_argmax (f := fun other : Task => other.id.value.toNat)
      hattempt hlatest
  exact UInt64.le_iff_toNat_le.mpr hle

end WorkingSet

/-- A text that starts with what another text does not start with is not that
text. -/
theorem append_ne_of_not_prefix {start text : String}
    (hstart : ¬ start.toList <+: text.toList) (rest : String) :
    start ++ rest ≠ text := by
  rintro rfl
  rw [String.toList_append] at hstart
  exact hstart (List.prefix_append _ _)

/-- The wording of a judgement is not that of the lack of one. -/
theorem Denial.message_ne_notEvaluated {denial : Denial}
    (hreason : denial ≠ .notEvaluated) :
    denial.message ≠ notEvaluated.message := by
  unfold message
  cases denial with
  | notEvaluated => exact absurd rfl hreason
  | unknownUser | notChainHead | noNodesRequested => decide
  | overQuota | quotaTightened | superseded | doubleBooked
  | chainAlreadyRunning =>
    simp only [String.append_assoc]
    exact append_ne_of_not_prefix (by simp) _

/-- Whether the rules have judged a candidate as far as a matcher asks them. -/
structure Candidate.IsJudged (candidate : Candidate) : Prop where
  scheduled : candidate.task.isScheduled →
    candidate.verdict.running ≠ .denied .notEvaluated
  queued : candidate.task.isQueued → candidate.admission ≠ .denied .notEvaluated

/-- The row of a task that has been judged does not say that it has not been. -/
theorem Ruling.message_ne_notEvaluated {partition : Partition}
    {pass : MatchPass} {rows : List Task} {candidate : Candidate} {row : Task}
    (hjudged : candidate.IsJudged) (hmatchable : candidate.prepared.isMatchable)
    (hruling : Ruling partition pass rows candidate row) :
    row.schedulerMessage ≠ Denial.notEvaluated.message := by
  have htext : Denial.notEvaluated.message = "not evaluated" := rfl
  cases hruling with
  | kept => exact (by decide : "" ≠ "not evaluated")
  | suspended hscheduled hrunning =>
    apply Denial.message_ne_notEvaluated
    rintro rfl
    exact hjudged.scheduled hscheduled hrunning
  | heldBack hwaiting _ hadmission =>
    apply Denial.message_ne_notEvaluated
    rintro rfl
    exact hjudged.queued
      (PreparedTask.isQueued_of_isMatchable hmatchable hwaiting) hadmission
  | preempted | infeasible | started | waiting =>
    rw [htext]
    exact append_ne_of_not_prefix (by simp) _

namespace Tick

section Candidates

variable {prepared : Prepared}

/-- Whoever is matched is in the scopes of the rules that are asked. -/
theorem isJudged_candidateOf
    (hscopes : prepared.verdicts.JudgeScopes prepared.workingSet)
    {task : PreparedTask} (htask : task ∈ prepared.workingSet.tasks)
    (hmatchable : task.isMatchable) : (candidateOf prepared task).IsJudged where
  scheduled hscheduled hrunning :=
    hscopes.running.check_eq_notEvaluated_iff.mp hrunning
      ⟨task, htask, hscheduled, rfl⟩
  queued hqueued hadmission := by
    have hhead : task.isChainHead := by
      have hwaiting : task.task.isScheduled = false :=
        Task.isScheduled_eq_false_of_isQueued hqueued
      rw [PreparedTask.isMatchable, hwaiting, Bool.false_or,
        Bool.and_eq_true] at hmatchable
      exact hmatchable.2
    rcases Check.andThen_eq_denied hadmission with hwaiting | hquota
    · exact hscopes.waiting.check_eq_notEvaluated_iff.mp hwaiting
        ⟨task, htask, hqueued, rfl⟩
    · exact hscopes.withinLimits.check_eq_notEvaluated_iff.mp hquota
        ⟨task, htask, ⟨Or.inr hqueued, hhead⟩, rfl⟩

private theorem isJudged_of_mem_partitions
    (hscopes : prepared.verdicts.JudgeScopes prepared.workingSet)
    {pass : MatchPass} {frame : List Node} {partition : Partition}
    (hpartition : partition ∈ partitions prepared pass frame)
    {candidate : Candidate} (hcandidate : candidate ∈ partition.candidates) :
    candidate.IsJudged := by
  rw [partitions_eq] at hpartition
  obtain ⟨group, -, rfl⟩ := List.mem_map.mp hpartition
  obtain ⟨task, htask, rfl⟩ := List.mem_map.mp hcandidate
  obtain ⟨hmem, -, hmatchable⟩ :=
    mem_matchable_iff.mp (List.mem_of_mem_filter htask)
  exact isJudged_candidateOf hscopes hmem hmatchable

end Candidates

section Schedule

variable (snapshot : Snapshot) (config : EngineConfig)

/-- The rules judge their scopes whatever the sizes of the groups are. -/
theorem judgeScopes_workingSet (sizes : PartitionSizes) :
    (Verdicts.under (workingSet snapshot config) sizes).JudgeScopes
      (workingSet snapshot config) :=
  judgeScopes_under (consistent_workingSet snapshot config).taskIds
    (WorkingSet.hasHeads_ofSnapshot snapshot config.defaultGroup) sizes

/-- Each rule judges its scope, so whoever is matched has been judged, and no
row says otherwise. -/
theorem judged_schedule (decidedAt : Instant) :
    (∀ sizes,
        (Verdicts.under (WorkingSet.ofSnapshot snapshot config.defaultGroup)
            sizes).JudgeScopes
          (WorkingSet.ofSnapshot snapshot config.defaultGroup)) ∧
      (∀ sizes pass frame,
        ∀ partition ∈ partitions
          ⟨workingSet snapshot config,
            Verdicts.under (workingSet snapshot config) sizes⟩
          pass frame,
        ∀ candidate ∈ partition.candidates, candidate.IsJudged) ∧
      ∀ row ∈ (schedule snapshot config decidedAt).assignment.tasks,
        row.schedulerMessage ≠ Denial.notEvaluated.message := by
  refine ⟨?_, ?_, ?_⟩
  · exact judgeScopes_under
      (WorkingSet.consistent_ofSnapshot snapshot config.defaultGroup).taskIds
      (WorkingSet.hasHeads_ofSnapshot snapshot config.defaultGroup)
  · intro sizes pass frame partition hpartition candidate hcandidate
    exact isJudged_of_mem_partitions
      (judgeScopes_workingSet snapshot config sizes) hpartition hcandidate
  · intro row hrow
    rw [schedule_tasks] at hrow
    obtain ⟨pass, frame, -, -, task, htask, hruling⟩ :=
      (allReady_prepare snapshot config).ruled hrow
    obtain ⟨hmem, -, hmatchable⟩ := mem_matchable_iff.mp htask
    exact hruling.message_ne_notEvaluated
      (isJudged_candidateOf (judgeScopes_workingSet snapshot config _) hmem
        hmatchable)
      hmatchable

end Schedule

end Tick

end ClusterTick
