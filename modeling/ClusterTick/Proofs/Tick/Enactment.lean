import ClusterTick.Proofs.Tick.Exclusivity
import ClusterTick.Proofs.Tick.Revision

/-!
# What an enacted tick leaves behind

Enacting an assignment is a revision of the snapshot.  Afterwards the scheduled
tasks are those whose rows hold nodes, and they list the nodes that their rows
name.
-/

namespace ClusterTick

namespace Assignment

/-- A task row once an assignment is enacted. -/
def enacted (assignment : Assignment) (task : Task) : Task :=
  match assignment.lastDecision? task.id with
  | some decision => enact decision task
  | none => task

theorem project_eq (assignment : Assignment) (snapshot : Snapshot) :
    assignment.project snapshot = snapshot.tasks.map assignment.enacted := rfl

theorem plan_enact (decision task : Task) :
    (enact decision task).plan = task.plan := by
  rw [enact]
  split <;> rfl

theorem normalizeTask_enact (defaultGroup : GroupName) (decision task : Task) :
    WorkingSet.normalizeTask defaultGroup (enact decision task) =
      enact decision (WorkingSet.normalizeTask defaultGroup task) := by
  rw [enact, enact]
  split <;> rfl

/-- The enactment as a change of task rows. -/
def revision (assignment : Assignment) : Revision where
  change := assignment.enacted
  plan := by
    intro task
    rw [enacted]
    split
    · exact plan_enact _ task
    · rfl
  normalize := by
    intro defaultGroup task
    rw [enacted, enacted, WorkingSet.id_normalizeTask]
    split
    · exact normalizeTask_enact defaultGroup _ task
    · rfl

@[simp]
theorem change_revision (assignment : Assignment) :
    assignment.revision.change = assignment.enacted := rfl

theorem relates_nextSnapshot (assignment : Assignment) (snapshot : Snapshot) :
    assignment.revision.Relates snapshot
      (assignment.nextSnapshot snapshot) where
  valid := rfl
  users := rfl
  nodes := by
    rw [nextSnapshot, List.map_map]
    refine List.map_congr_left fun node _ => ?_
    simp only [Function.comp_apply]
    split <;> rfl
  tasks := rfl

private theorem lastDecision?_eq_some_iff {assignment : Assignment}
    (hdistinct : (assignment.tasks.map Task.id).Nodup) {id : TaskId}
    {row : Task} :
    assignment.lastDecision? id = some row ↔
      row ∈ assignment.tasks ∧ row.id = id := by
  have hdistinct' : (assignment.tasks.reverse.map Task.id).Nodup := by
    rwa [List.map_reverse, List.nodup_reverse]
  rw [lastDecision?, find?_key_eq_some_iff hdistinct', List.mem_reverse]

private theorem enacted_of_row {assignment : Assignment}
    (hdistinct : (assignment.tasks.map Task.id).Nodup) {row task : Task}
    (hrow : row ∈ assignment.tasks) (hid : row.id = task.id) :
    assignment.enacted task = enact row task := by
  rw [enacted, (lastDecision?_eq_some_iff hdistinct).mpr ⟨hrow, hid⟩]

private theorem enacted_of_undecided {assignment : Assignment} {task : Task}
    (hnone : ∀ row ∈ assignment.tasks, row.id ≠ task.id) :
    assignment.enacted task = task := by
  have hlast : assignment.lastDecision? task.id = none := by
    rw [lastDecision?, List.find?_eq_none]
    simpa using hnone
  rw [enacted, hlast]

end Assignment

/-- A task is scheduled after the enactment of its row exactly if the row holds
nodes, and they are its nodes then. -/
theorem Ruling.enact_eq {partition : Partition} {pass : MatchPass}
    {rows : List Task} {candidate : Candidate} {row : Task}
    (hruling : Ruling partition pass rows candidate row) :
    (Assignment.enact row candidate.task).isScheduled = row.isHolding ∧
      (row.isHolding →
        (Assignment.enact row candidate.task).assignedNodes =
          row.assignedNodes) ∧
      ((Assignment.enact row candidate.task).isFinished →
        candidate.task.isFinished) := by
  cases hruling with
  | kept hscheduled => exact ⟨hscheduled, fun _ => rfl, id⟩
  | suspended => exact ⟨rfl, nofun, nofun⟩
  | preempted => exact ⟨rfl, nofun, nofun⟩
  | infeasible hwaiting => exact ⟨hwaiting, nofun, id⟩
  | heldBack hwaiting => exact ⟨hwaiting, nofun, id⟩
  | started => exact ⟨rfl, fun _ => rfl, nofun⟩
  | waiting hwaiting => exact ⟨hwaiting, nofun, id⟩

theorem PreparedTask.not_isFinished_of_isMatchable {prepared : PreparedTask}
    (hmatchable : prepared.isMatchable) : prepared.task.isFinished = false := by
  cases hstatus : prepared.task.queueStatus with
  | finished =>
    simp [isMatchable, Task.isScheduled, Task.isQueued, hstatus] at hmatchable
  | queued => simp [Task.isFinished, hstatus]
  | scheduled => simp [Task.isFinished, hstatus]

namespace Tick

section Rows

variable {prepared : Prepared}

/-- The row of a task is a ruling on it. -/
theorem AllReady.ruling_of_id (hready : AllReady prepared) {task : PreparedTask}
    (htask : task ∈ prepared.workingSet.tasks) {row : Task}
    (hrow : row ∈ tickRows prepared) (hid : row.id = task.id) :
    ∃ (pass : MatchPass) (frame : List Node), Ready prepared pass frame ∧
      frame.map Node.vacated = prepared.workingSet.nodes.map Node.vacated ∧
      task ∈ matchable prepared.workingSet pass ∧
      Ruling (groupPartition prepared pass frame task.group) pass
        (tickRows prepared) (candidateOf prepared task) row := by
  obtain ⟨pass, frame, hpass, hsame, other, hother, hruling⟩ :=
    hready.ruled hrow
  obtain rfl : other = task := by
    apply List.inj_on_of_nodup_map hpass.taskIds (mem_matchable_iff.mp hother).1
      htask
    exact hruling.id_eq.symm.trans hid
  exact ⟨pass, frame, hpass, hsame, hother, hruling⟩

/-- Exactly the tasks that are matched have a row. -/
theorem AllReady.exists_row_iff (hready : AllReady prepared)
    {task : PreparedTask} (htask : task ∈ prepared.workingSet.tasks) :
    (∃ row ∈ tickRows prepared, row.id = task.id) ↔ task.isMatchable := by
  rw [← List.mem_map, hready.ids_tickRows.mem_iff, List.mem_map]
  constructor
  · rintro ⟨other, hother, hid⟩
    obtain ⟨hmem, hmatchable⟩ := List.mem_filter.mp hother
    rwa [List.inj_on_of_nodup_map (hready .training).taskIds hmem htask
      hid] at hmatchable
  · exact fun hmatchable => ⟨task, List.mem_filter.mpr ⟨htask, hmatchable⟩, rfl⟩

end Rows

variable (snapshot : Snapshot) (config : EngineConfig) (decidedAt : Instant)

/-- The snapshot that follows once a tick is enacted. -/
def following : Snapshot :=
  (schedule snapshot config decidedAt).assignment.nextSnapshot snapshot

/-- What a tick makes of its tasks. -/
def revision : Revision :=
  (schedule snapshot config decidedAt).assignment.revision

theorem relates_following :
    (revision snapshot config decidedAt).Relates snapshot
      (following snapshot config decidedAt) :=
  (schedule snapshot config decidedAt).assignment.relates_nextSnapshot snapshot

section Enacted

variable {task : PreparedTask}
  (htask : task ∈ (workingSet snapshot config).tasks)

include htask

omit htask in
theorem change_of_row {row : Task}
    (hrow : row ∈ tickRows (prepare snapshot config)) (hid : row.id = task.id) :
    (revision snapshot config decidedAt).change task.task =
      Assignment.enact row task.task := by
  rw [revision, Assignment.change_revision]
  apply Assignment.enacted_of_row
    (nodup_schedule_tasks snapshot config decidedAt) _ hid
  rwa [schedule_tasks]

theorem change_of_idle (hidle : task.isMatchable = false) :
    (revision snapshot config decidedAt).change task.task = task.task := by
  rw [revision, Assignment.change_revision]
  apply Assignment.enacted_of_undecided
  intro row hrow hid
  rw [schedule_tasks] at hrow
  have hmatchable :=
    ((allReady_prepare snapshot config).exists_row_iff htask).mp
      ⟨row, hrow, hid⟩
  rw [hidle] at hmatchable
  cases hmatchable

/-- After the tick a task is scheduled exactly if its row holds nodes. -/
theorem isScheduled_change_iff :
    ((revision snapshot config decidedAt).change task.task).isScheduled ↔
      ∃ row ∈ tickRows (prepare snapshot config), row.id = task.id ∧
        row.isHolding := by
  have hready := allReady_prepare snapshot config
  cases hmatchable : task.isMatchable with
  | true =>
    obtain ⟨row, hrow, hid⟩ := (hready.exists_row_iff htask).mpr hmatchable
    obtain ⟨pass, frame, -, -, -, hruling⟩ := hready.ruling_of_id htask hrow hid
    rw [change_of_row snapshot config decidedAt hrow hid]
    have hscheduled :
        (Assignment.enact row task.task).isScheduled = row.isHolding :=
      hruling.enact_eq.1
    rw [hscheduled]
    constructor
    · exact fun hholding => ⟨row, hrow, hid, hholding⟩
    · rintro ⟨other, hother, hotherId, hholding⟩
      rwa [hready.row_unique hother hrow (hotherId.trans hid.symm)] at hholding
  | false =>
    rw [change_of_idle snapshot config decidedAt htask hmatchable]
    constructor
    · intro hscheduled
      simp [PreparedTask.isMatchable, hscheduled] at hmatchable
    · rintro ⟨row, hrow, hid, -⟩
      rw [(hready.exists_row_iff htask).mp ⟨row, hrow, hid⟩] at hmatchable
      cases hmatchable

/-- It lists the nodes that its row names. -/
theorem assignedNodes_change {row : Task}
    (hrow : row ∈ tickRows (prepare snapshot config)) (hid : row.id = task.id)
    (hholding : row.isHolding) :
    ((revision snapshot config decidedAt).change task.task).assignedNodes =
      row.assignedNodes := by
  obtain ⟨pass, frame, -, -, -, hruling⟩ :=
    (allReady_prepare snapshot config).ruling_of_id htask hrow hid
  rw [change_of_row snapshot config decidedAt hrow hid]
  exact hruling.enact_eq.2.1 hholding

section Raw

/-! The row of the snapshot becomes what the row of the working set becomes. -/

variable {raw : Task}
  (hsame : WorkingSet.normalizeTask config.defaultGroup raw = task.task)

include hsame

theorem isScheduled_change_raw_iff :
    ((revision snapshot config decidedAt).change raw).isScheduled ↔
      ∃ row ∈ tickRows (prepare snapshot config), row.id = task.id ∧
        row.isHolding := by
  rw [← Revision.isScheduled_change_normalizeTask _ config.defaultGroup, hsame]
  exact isScheduled_change_iff snapshot config decidedAt htask

theorem assignedNodes_change_raw {row : Task}
    (hrow : row ∈ tickRows (prepare snapshot config)) (hid : row.id = task.id)
    (hholding : row.isHolding) :
    ((revision snapshot config decidedAt).change raw).assignedNodes =
      row.assignedNodes := by
  rw [← Revision.assignedNodes_change_normalizeTask _ config.defaultGroup,
    hsame]
  exact assignedNodes_change snapshot config decidedAt htask hrow hid hholding

end Raw

private theorem isFinished_change :
    ((revision snapshot config decidedAt).change task.task).isFinished =
      task.task.isFinished := by
  have hready := allReady_prepare snapshot config
  cases hmatchable : task.isMatchable with
  | true =>
    obtain ⟨row, hrow, hid⟩ := (hready.exists_row_iff htask).mpr hmatchable
    obtain ⟨pass, frame, -, -, -, hruling⟩ := hready.ruling_of_id htask hrow hid
    have hopen := PreparedTask.not_isFinished_of_isMatchable hmatchable
    rw [change_of_row snapshot config decidedAt hrow hid, hopen,
      Bool.eq_false_iff]
    intro hfinished
    have hclosed : task.task.isFinished := hruling.enact_eq.2.2 hfinished
    rw [hopen] at hclosed
    cases hclosed
  | false => rw [change_of_idle snapshot config decidedAt htask hmatchable]

end Enacted

/-- The rows of the next snapshot are of the same tasks. -/
theorem ids_following :
    (following snapshot config decidedAt).tasks.map Task.id =
      snapshot.tasks.map Task.id := by
  rw [(relates_following snapshot config decidedAt).tasks, List.map_map]
  exact List.map_congr_left fun task _ => Revision.id_change _ task

/-- The tasks of the next working set are those of this one, as the tick leaves
them. -/
theorem tasks_following :
    (workingSet (following snapshot config decidedAt) config).tasks =
      (workingSet snapshot config).tasks.map
        (revision snapshot config decidedAt).prepared := by
  apply (relates_following snapshot config decidedAt).tasks_eq config
  intro task htask
  obtain ⟨prepared, hprepared, rfl⟩ :=
    exists_prepared_of_mem snapshot config htask
  exact isFinished_change snapshot config decidedAt hprepared

end Tick

end ClusterTick
