import ClusterTick.Fixture.Scenario
import ClusterTick.Proofs.Numeric.NumberText
import ClusterTick.Proofs.Tick.Assembly

/-!
# Who is preempted, and for whom

A victim is a task that the rules would have let keep its nodes.  Each one gives
way to a task of its group that is above it and starts on a node of it, and the
victim's row names that task.  A task that does not start has no victims.
-/

namespace ClusterTick

theorem TaskId.text_injective {left right : TaskId}
    (htext : left.text = right.text) : left = right := by
  have hvalue : left.value.toNat = right.value.toNat :=
    decimalDigits_injective (String.ofList_injective htext)
  cases left
  cases right
  exact congrArg TaskId.mk (UInt64.toNat_inj.mp hvalue)

theorem MatchState.preemptedMessage_injective {left right : TaskId}
    (hmessage : preemptedMessage left = preemptedMessage right) :
    left = right :=
  TaskId.text_injective ((String.append_right_inj _).mp hmessage)

/-- A row that is suspended although the rules would have let its task keep its
nodes. -/
def Verdicts.IsVictim (verdicts : Verdicts) (row : Task) : Prop :=
  row.processResult = .suspend ∧ verdicts.running.passes row.id

instance (verdicts : Verdicts) (row : Task) :
    Decidable (verdicts.IsVictim row) :=
  inferInstanceAs (Decidable (_ ∧ _))

/-- A victim gives way to a task that starts. -/
structure Task.GivesWayTo (users : OrderedMap UserName UserView)
    (victim starter : Task) : Prop where
  named : victim.schedulerMessage = MatchState.preemptedMessage starter.id
  group : starter.group = victim.group
  training : starter.isValidation = false ∧ victim.isValidation = false
  queued : starter.isQueued
  scheduled : victim.isScheduled
  above : WorkingSet.effectivePriority users victim <
    WorkingSet.effectivePriority users starter
  started : starter.processResult = .startup
  used : ∃ name ∈ starter.assignedNodes, name ∈ victim.assignedNodes

/-- Preemption takes place only where it is allowed, and only for tasks that
start. -/
structure Assignment.PreemptsLegally (assignment : Assignment)
    (snapshot : Snapshot) (config : EngineConfig) : Prop where
  allowed : ∀ victim ∈ assignment.tasks,
    (Tick.prepare snapshot config).verdicts.IsVictim victim →
    snapshot.valid ∧ config.dryRun = false
  justified : ∀ victim ∈ assignment.tasks,
    (Tick.prepare snapshot config).verdicts.IsVictim victim →
    ∃ starter ∈ assignment.tasks,
      victim.GivesWayTo (Tick.prepare snapshot config).workingSet.users starter
  /-- No task that starts is a victim. -/
  spared : ∀ starter ∈ assignment.tasks, starter.processResult = .startup →
    ∀ victim ∈ assignment.tasks,
    (Tick.prepare snapshot config).verdicts.IsVictim victim →
    victim.id ≠ starter.id
  /-- A task without a row that starts it has no victims. -/
  needed : ∀ id,
    (∀ row ∈ assignment.tasks, row.id = id → row.processResult ≠ .startup) →
    ∀ victim ∈ assignment.tasks,
    (Tick.prepare snapshot config).verdicts.IsVictim victim →
    victim.schedulerMessage ≠ MatchState.preemptedMessage id

theorem RuleVerdict.check_of_passes {verdict : RuleVerdict} {id : TaskId}
    (hpasses : verdict.passes id) : verdict.check id = .approved := by
  rw [check, if_pos hpasses]

namespace Tick

variable (snapshot : Snapshot) (config : EngineConfig)

/-- A victim gives way to a task that starts, and the snapshot allows it. -/
theorem exists_starter_of_victim {victim : Task}
    (hrow : victim ∈ tickRows (prepare snapshot config))
    (hvictim : (prepare snapshot config).verdicts.IsVictim victim) :
    (workingSet snapshot config).valid ∧
      ∃ starter ∈ tickRows (prepare snapshot config),
        victim.GivesWayTo (workingSet snapshot config).users starter := by
  obtain ⟨hsuspended, hpasses⟩ := hvictim
  obtain ⟨pass, frame, -, -, task, htask, hruling⟩ :=
    (allReady_prepare snapshot config).ruled hrow
  rw [hruling.id_eq] at hpasses
  have happroved :
      (candidateOf (prepare snapshot config) task).verdict.running =
        .approved :=
    RuleVerdict.check_of_passes hpasses
  cases hruling with
  | suspended _ hrunning =>
    rw [happroved] at hrunning
    cases hrunning
  | preempted hscheduled _ hpass hvalid hstarter hwaiting hbelow hstarted
      hchosen hlisted =>
    subst hpass
    obtain ⟨other, hother, hgroup, rfl⟩ :=
      mem_decided_groupPartition_iff.mp hstarter
    obtain ⟨hotherMem, -, hotherMatchable⟩ := mem_matchable_iff.mp hother
    have habove : ∀ victim starter : Task, victim.request = task.task.request →
        starter.request = other.task.request →
        WorkingSet.effectivePriority (workingSet snapshot config).users victim <
          WorkingSet.effectivePriority (workingSet snapshot config).users
            starter := by
      intro victim starter hvictim hstarter
      rw [effectivePriority_of_request snapshot config
          (mem_matchable_iff.mp htask).1 hvictim,
        effectivePriority_of_request snapshot config hotherMem hstarter]
      exact hbelow
    refine ⟨hvalid, _, hstarted, ?_⟩
    exact {
      named := rfl
      group := hgroup
      training :=
        ⟨isValidation_of_mem_matchable hother,
          isValidation_of_mem_matchable htask⟩
      queued := PreparedTask.isQueued_of_isMatchable hotherMatchable hwaiting
      scheduled := hscheduled
      above := habove _ _ rfl rfl
      started := rfl
      used := ⟨_, hchosen, hlisted⟩ }
  | kept => cases hsuspended
  | infeasible => cases hsuspended
  | heldBack => cases hsuspended
  | started => cases hsuspended
  | waiting => cases hsuspended

/-- Preemption is legal, and every victim is one of a task that starts. -/
theorem preemptsLegally_schedule (decidedAt : Instant) :
    (schedule snapshot config decidedAt).assignment.PreemptsLegally snapshot
      config := by
  have hstarter :
      ∀ victim ∈ (schedule snapshot config decidedAt).assignment.tasks,
        (prepare snapshot config).verdicts.IsVictim victim →
        (workingSet snapshot config).valid ∧
          ∃ starter ∈ (schedule snapshot config decidedAt).assignment.tasks,
            victim.GivesWayTo (workingSet snapshot config).users starter := by
    rw [schedule_tasks]
    exact fun _ => exists_starter_of_victim snapshot config
  refine ⟨?_, ?_, ?_, ?_⟩
  · intro victim hmem hvictim
    simpa [workingSet, WorkingSet.ofSnapshot] using
      (hstarter victim hmem hvictim).1
  · intro victim hmem hvictim
    exact (hstarter victim hmem hvictim).2
  · intro starter hmem hstarted victim hvictimMem hvictim hid
    rw [schedule_row_unique snapshot config decidedAt hvictimMem hmem
      hid] at hvictim
    have hboth : Decision.startup = Decision.suspend :=
      hstarted.symm.trans hvictim.1
    cases hboth
  · intro id hidle victim hmem hvictim hnamed
    obtain ⟨-, starter, hstarterMem, hway⟩ := hstarter victim hmem hvictim
    have hid : starter.id = id :=
      MatchState.preemptedMessage_injective (hway.named.symm.trans hnamed)
    exact hidle starter hstarterMem hid hway.started

/-- One node, which a task of low priority holds and an urgent task waits
for. -/
def urgentTask : Snapshot :=
  { group := ⟨"train"⟩ : Scenario }
    |>.addReadyNode ⟨"n1"⟩ "room"
    |>.addQuotaHolder ⟨"alice"⟩ 1
    |>.addScheduled ⟨1⟩ ⟨"alice"⟩ (-10) [⟨"n1"⟩]
    |>.addQueued ⟨2⟩ ⟨"alice"⟩ 30 1
    |>.snapshot default

/-- The urgent task starts, and the other one is its victim. -/
theorem preemptsLegally_schedule_urgentTask :
    (∃ victim ∈ (schedule urgentTask {} default).assignment.tasks,
        (prepare urgentTask {}).verdicts.IsVictim victim ∧
        victim.schedulerMessage = MatchState.preemptedMessage ⟨2⟩) ∧
      (schedule urgentTask {} default).assignment.PreemptsLegally urgentTask
        {} :=
  ⟨by decide +kernel, preemptsLegally_schedule urgentTask {} default⟩

end Tick

end ClusterTick
