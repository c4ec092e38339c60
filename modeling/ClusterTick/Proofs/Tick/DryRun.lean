import ClusterTick.Fixture.Scenario
import ClusterTick.Proofs.Match.Restraint
import ClusterTick.Proofs.Tick.Enactment
import ClusterTick.Proofs.Tick.Feasibility

/-!
# What a dry run foretells

A dry run decides without preemption and is otherwise the live tick.  Whom it
suspends, the rules turn down, so the live tick suspends the same tasks for the
same reasons.  And if the live tick suspends nobody else, then it has preempted
nobody, and the two have decided alike throughout.
-/

namespace ClusterTick

/-- What a dry assignment says about the live one. -/
structure Assignment.Foretells (dry live : Assignment) : Prop where
  /-- Whoever is suspended in the dry run is suspended in the live tick, and
  told the same. -/
  suspended : ∀ row ∈ dry.tasks, row.processResult = .suspend → row ∈ live.tasks
  /-- Where the live tick suspends nobody whom the dry run keeps running, it
  decides as the dry run does. -/
  agrees :
    (∀ row ∈ dry.tasks, row.processResult = .keepRunning → ∀ other ∈ live.tasks,
        other.id = row.id → other.processResult ≠ .suspend) →
      live = { dry with valid := live.valid, decidedAt := live.decidedAt }

/-- Assignments with the same outcome differ in their header only. -/
theorem Assignment.eq_of_outcome {left right : Assignment}
    (hseq : left.seq = right.seq) (hnodes : left.nodes = right.nodes)
    (htasks : left.tasks = right.tasks)
    (hinfeasible : left.infeasible = right.infeasible)
    (hcollisions : left.collisions = right.collisions) :
    left = { right with valid := left.valid, decidedAt := left.decidedAt } := by
  rw [← hseq, ← hnodes, ← htasks, ← hinfeasible, ← hcollisions]

/-- The working set with preemption off, and the answers of the rules. -/
def Prepared.restrained (prepared : Prepared) : Prepared :=
  { prepared with workingSet := { prepared.workingSet with valid := false } }

namespace Tick

/-- The rules do not look at whether the tick may preempt. -/
theorem prepare_dryRun (snapshot : Snapshot) (group : GroupName) :
    prepare snapshot ⟨group, true⟩ =
      (prepare snapshot ⟨group, false⟩).restrained := by
  simp only [prepare, workingSet, Prepared.restrained, Bool.not_true,
    Bool.and_false]
  rfl

section Restrained

variable {prepared : Prepared}

private theorem groupPartition_restrained (prepared : Prepared)
    (pass : MatchPass) (frame : List Node) (group : GroupName) :
    groupPartition prepared.restrained pass frame group =
      (groupPartition prepared pass frame group).restrained :=
  rfl

/-- The validation pass does not look at it either, so both passes start
alike. -/
theorem passFrame_restrained (prepared : Prepared) (pass : MatchPass) :
    passFrame prepared.restrained pass = passFrame prepared pass := by
  cases pass <;> rfl

theorem AllReady.restrained (hready : AllReady prepared) :
    AllReady prepared.restrained := by
  intro pass
  exact ⟨(hready pass).ordered, (hready pass).taskIds, (hready pass).occupant,
    (hready pass).undisputed⟩

/-- Whom a tick suspends without preemption, it suspends with preemption. -/
theorem AllReady.suspended_of_restrained (hready : AllReady prepared)
    {row : Task} (hrow : row ∈ tickRows prepared.restrained)
    (hsuspended : row.processResult = .suspend) : row ∈ tickRows prepared := by
  obtain ⟨pass, frame, -, -, task, hmatched, hruling⟩ :=
    hready.restrained.ruled hrow
  obtain ⟨htask, -, hmatchable⟩ := mem_matchable_iff.mp hmatched
  have hscheduled : task.task.isScheduled :=
    hruling.isScheduled_of_suspended hsuspended
  rcases hruling.running_of_restrained rfl hscheduled with
    ⟨hkept, -⟩ | ⟨denial, hdenied, rfl⟩
  · rw [hkept] at hsuspended
    cases hsuspended
  · obtain ⟨live, hlive, hid⟩ := (hready.exists_row_iff htask).mpr hmatchable
    obtain ⟨_, _, -, -, -, hother⟩ := hready.ruling_of_id htask hlive hid
    have hsame :
        live = task.task.withDecision .suspend .cannotRun denial.message :=
      hother.eq_of_denied hscheduled hdenied
    exact hsame ▸ hlive

/-- Where a tick suspends nobody whom it would keep without preemption, all its
passes spare. -/
theorem AllReady.spares (hready : AllReady prepared)
    (hspared : ∀ row ∈ tickRows prepared.restrained,
      row.processResult = .keepRunning → ∀ other ∈ tickRows prepared,
      other.id = row.id → other.processResult ≠ .suspend)
    (pass : MatchPass) (group : GroupName) :
    (groupPartition prepared pass (Tick.passFrame prepared pass) group).Spares
      pass := by
  intro candidate hcandidate hscheduled hrunning other hother hid
  obtain ⟨task, hmatched, hgroup, rfl⟩ :=
    mem_decided_groupPartition_iff.mp hcandidate
  obtain ⟨htask, hincludes, hmatchable⟩ := mem_matchable_iff.mp hmatched
  obtain ⟨row, hrow, hrowId⟩ :=
    (hready.restrained.exists_row_iff htask).mpr hmatchable
  obtain ⟨_, _, -, -, -, hruling⟩ :=
    hready.restrained.ruling_of_id htask hrow hrowId
  have hkept : row.processResult = .keepRunning := by
    rcases hruling.running_of_restrained rfl hscheduled with
      ⟨hkept, -⟩ | ⟨denial, hdenied, -⟩
    · exact hkept
    · exact absurd (hrunning.symm.trans hdenied) nofun
  apply hspared row hrow hkept other _ (hid.trans hrowId.symm)
  rw [hready.mem_tickRows_of_id htask hid,
    ← MatchPass.includes_iff.mp hincludes, hgroup]
  exact hother

/-- A tick that spares them is the tick without preemption, group by group. -/
theorem AllReady.share_restrained (hready : AllReady prepared)
    (hspared : ∀ row ∈ tickRows prepared.restrained,
      row.processResult = .keepRunning → ∀ other ∈ tickRows prepared,
      other.id = row.id → other.processResult ≠ .suspend) :
    share prepared.restrained = share prepared := by
  funext pass group
  rw [share, passFrame_restrained, groupOutcome, groupPartition_restrained]
  exact (hready.spares hspared pass group).run_restrained
    ((hready.passFrame pass).sound group)

private theorem tickRows_eq_flatMap (prepared : Prepared) :
    tickRows prepared =
      [MatchPass.validation,
        .training].flatMap fun pass =>
          (passGroups prepared pass).flatMap fun group =>
            (share prepared pass group).tasks := by
  simp [tickRows, passRows, share, passFrame]

private theorem tickRows_of_share
    (hshare : share prepared.restrained = share prepared) :
    tickRows prepared.restrained = tickRows prepared := by
  rw [tickRows_eq_flatMap, hshare, tickRows_eq_flatMap]
  rfl

private theorem tickFrame_of_share
    (hshare : share prepared.restrained = share prepared) :
    tickFrame prepared.restrained = tickFrame prepared := by
  have hframe : ∀ prepared : Prepared,
      tickFrame prepared =
        mergeNodes (trainingFrame prepared ++
          (passGroups prepared .training).flatMap fun group =>
            (share prepared .training group).nodes) :=
    fun _ => rfl
  rw [hframe, hshare, hframe]
  rfl

end Restrained

section Schedule

variable (snapshot : Snapshot) (group : GroupName) (dryAt liveAt : Instant)

/-- A dry run foretells the live tick on the same snapshot. -/
theorem foretells_dryRun :
    (schedule snapshot ⟨group, true⟩ dryAt).assignment.Foretells
      (schedule snapshot ⟨group, false⟩ liveAt).assignment where
  suspended := by
    rw [schedule_tasks, schedule_tasks, prepare_dryRun]
    exact fun _ =>
      (allReady_prepare snapshot ⟨group, false⟩).suspended_of_restrained
  agrees := by
    intro hspared
    rw [schedule_tasks, schedule_tasks, prepare_dryRun] at hspared
    have hready := allReady_prepare snapshot ⟨group, false⟩
    have hshare := hready.share_restrained hspared
    apply Assignment.eq_of_outcome
    · rfl
    · rw [schedule_nodes, schedule_nodes, prepare_dryRun,
        tickFrame_of_share hshare]
    · rw [schedule_tasks, schedule_tasks, prepare_dryRun,
        tickRows_of_share hshare]
    · rw [schedule_infeasible, schedule_infeasible, prepare_dryRun, hshare]
      rfl
    · rw [schedule_collisions, schedule_collisions]

end Schedule

/-- One node.  The task that holds it has lost its quota, the second task runs
without nodes, and the third one waits for the node. -/
def lostQuota : Snapshot :=
  { group := ⟨"train"⟩ : Scenario }
    |>.addReadyNode ⟨"n1"⟩ "room"
    |>.addUser
      { userName := ⟨"alice"⟩,
        quota := OrderedMap.ofList [("node-train-HIGH", 1)] }
    |>.addScheduled ⟨1⟩ ⟨"alice"⟩ (-10) [⟨"n1"⟩]
    |>.addScheduled ⟨2⟩ ⟨"alice"⟩ 40 []
    |>.addQueued ⟨3⟩ ⟨"alice"⟩ 30 1
    |>.snapshot default

/-- The dry run suspends the first task, keeps the second one and starts the
third one, and so does the live tick. -/
theorem foretells_dryRun_lostQuota :
    ((schedule lostQuota ⟨⟨"default"⟩, true⟩
          default).assignment.tasks.map fun row =>
            (row.id, row.processResult)) =
        [(⟨1⟩, .suspend), (⟨2⟩, .keepRunning), (⟨3⟩, .startup)] ∧
      (∀ row ∈ (schedule lostQuota ⟨⟨"default"⟩, true⟩
          default).assignment.tasks,
        row.processResult = .suspend →
        row ∈
          (schedule lostQuota ⟨⟨"default"⟩, false⟩ default).assignment.tasks) ∧
      (schedule lostQuota ⟨⟨"default"⟩, false⟩ default).assignment =
        { (schedule lostQuota ⟨⟨"default"⟩, true⟩ default).assignment with
          valid := true } :=
  have hforetells := foretells_dryRun lostQuota ⟨"default"⟩ default default
  ⟨by decide +kernel, hforetells.suspended,
    hforetells.agrees (by decide +kernel)⟩

end Tick

end ClusterTick
