import ClusterTick.Fixture.Scenario
import ClusterTick.Proofs.Tick.Feasibility
import ClusterTick.Proofs.Tick.Replay
import ClusterTick.Proofs.Tick.Settling

/-!
# Tasks that never start

A queued task that asks for more nodes than its group has is turned down, and
enacting that leaves it as it is.  No tick adds a node to a group, so the next
tick finds the same task too large again, whatever has become of the others.
-/

namespace ClusterTick

namespace Assignment

/-- An assignment lists the tasks that are too large for their group, and turns
them down. -/
structure ListsTooLarge (assignment : Assignment) (set : WorkingSet) :
    Prop where
  ordered :
    assignment.infeasible.Pairwise fun left right => left.value < right.value
  /-- The listed tasks are the latest queued attempts that ask for more nodes
  than their group has. -/
  listed : ∀ id,
    id ∈ assignment.infeasible ↔
      ∃ task ∈ set.tasks, task.id = id ∧ task.task.isQueued ∧ task.isChainHead ∧
        set.groupSize task.group < task.task.nodes.toNat
  refused : ∀ id ∈ assignment.infeasible,
    ∃ row ∈ assignment.tasks, row.id = id ∧ row.processResult = .notSure ∧
      row.schedulerResult = .cannotRun

/-- An assignment lists a task as too large, does not start it and says nothing
of it in its intents. -/
structure LeavesOut (assignment : Assignment) (id : TaskId) : Prop where
  listed : id ∈ assignment.infeasible
  idle : ∀ row ∈ assignment.tasks, row.id = id → row.processResult ≠ .startup
  silent : id ∉ assignment.intents.intents.map Intent.taskId

/-- Who waits is not spoken of in the intents. -/
theorem not_mem_intents_of_notSure {assignment : Assignment} {id : TaskId}
    (hwaits : ∀ row ∈ assignment.tasks, row.id = id →
      row.processResult = .notSure) :
    id ∉ assignment.intents.intents.map Intent.taskId := by
  intro hmem
  obtain ⟨intent, hintent, rfl⟩ := List.mem_map.mp hmem
  obtain ⟨row, hrow, hcalls⟩ := List.mem_filterMap.mp hintent
  have hwaiting := hwaits row hrow (intent?_eq_some hcalls).1.symm
  simp [intent?, intentKind?, hwaiting] at hcalls

end Assignment

namespace Tick

/-- A task that is matched and too large is the latest queued attempt of its
chain. -/
theorem isMatchable_and_isTooLarge_iff {set : WorkingSet}
    {task : PreparedTask} :
    task.isMatchable ∧ isTooLarge set task ↔
      task.task.isQueued ∧ task.isChainHead ∧
        set.groupSize task.group < task.task.nodes.toNat := by
  simp only [isTooLarge, PreparedTask.isMatchable, Bool.and_eq_true,
    Bool.or_eq_true, Bool.not_eq_true', decide_eq_true_eq]
  constructor
  · rintro ⟨hscheduled | hqueued, hwaiting, hlarge⟩
    · rw [hscheduled] at hwaiting
      cases hwaiting
    · exact ⟨hqueued.1, hqueued.2, hlarge⟩
  · rintro ⟨hqueued, hhead, hlarge⟩
    exact ⟨Or.inr ⟨hqueued, hhead⟩,
      Task.isScheduled_eq_false_of_isQueued hqueued, hlarge⟩

section Once

variable (snapshot : Snapshot) (config : EngineConfig) (decidedAt : Instant)

/-- A task that is too large is turned down. -/
theorem refused_of_isTooLarge {task : PreparedTask}
    (htask : task ∈ (workingSet snapshot config).tasks)
    (hlarge : isTooLarge (workingSet snapshot config) task) {row : Task}
    (hrow : row ∈ tickRows (prepare snapshot config)) (hid : row.id = task.id) :
    row.processResult = .notSure ∧ row.schedulerResult = .cannotRun := by
  obtain ⟨pass, frame, -, hsame, -, hruling⟩ :=
    (allReady_prepare snapshot config).ruling_of_id htask hrow hid
  simp only [isTooLarge, Bool.and_eq_true, Bool.not_eq_true',
    decide_eq_true_eq] at hlarge
  have hexceeds :
      (groupPartition (prepare snapshot config) pass frame
          task.group).nodes.length <
        task.task.nodes.toNat := by
    rw [length_nodes_groupPartition hsame]
    exact hlarge.2
  rw [hruling.eq_of_tooLarge hlarge.1 hexceeds]
  exact ⟨rfl, rfl⟩

theorem listsTooLarge_schedule :
    (schedule snapshot config decidedAt).assignment.ListsTooLarge
      (workingSet snapshot config) where
  ordered := by
    refine (ordered_schedule_infeasible snapshot config decidedAt).imp ?_
    intro left right hlt
    exact (@Std.compare_eq_lt UInt64 _ _ _ _ _ _ _).mp hlt
  listed := by
    intro id
    rw [mem_schedule_infeasible_iff]
    simp only [isMatchable_and_isTooLarge_iff]
  refused := by
    intro id hlisted
    obtain ⟨task, htask, rfl, hmatchable, hlarge⟩ :=
      (mem_schedule_infeasible_iff snapshot config decidedAt).mp hlisted
    obtain ⟨row, hrow, hid⟩ :=
      ((allReady_prepare snapshot config).exists_row_iff htask).mpr hmatchable
    have hrefused := refused_of_isTooLarge snapshot config htask hlarge hrow hid
    rw [← schedule_tasks snapshot config decidedAt] at hrow
    exact ⟨row, hrow, hid, hrefused⟩

/-- Who is listed is left out. -/
theorem leavesOut_of_listed {id : TaskId}
    (hlisted : id ∈
      (schedule snapshot config decidedAt).assignment.infeasible) :
    (schedule snapshot config decidedAt).assignment.LeavesOut id := by
  have hwaits : ∀ row ∈ (schedule snapshot config decidedAt).assignment.tasks,
      row.id = id → row.processResult = .notSure := by
    obtain ⟨task, htask, rfl, -, hlarge⟩ :=
      (mem_schedule_infeasible_iff snapshot config decidedAt).mp hlisted
    intro row hrow hid
    rw [schedule_tasks] at hrow
    exact (refused_of_isTooLarge snapshot config htask hlarge hrow hid).1
  refine ⟨hlisted, ?_, Assignment.not_mem_intents_of_notSure hwaits⟩
  intro row hrow hid
  rw [hwaits row hrow hid]
  nofun

/-- A task that is too large is as before once the tick is enacted, and still
too large. -/
theorem isTooLarge_following {task : PreparedTask}
    (htask : task ∈ (workingSet snapshot config).tasks)
    (hmatchable : task.isMatchable)
    (hlarge : isTooLarge (workingSet snapshot config) task) :
    ((revision snapshot config decidedAt).prepared task).isMatchable ∧
      isTooLarge (workingSet (following snapshot config decidedAt) config)
        ((revision snapshot config decidedAt).prepared task) := by
  obtain ⟨row, hrow, hid⟩ :=
    ((allReady_prepare snapshot config).exists_row_iff htask).mpr hmatchable
  have hwaits := (refused_of_isTooLarge snapshot config htask hlarge hrow hid).1
  have hstatus :
      ((revision snapshot config decidedAt).change task.task).queueStatus =
        task.task.queueStatus := by
    rw [change_of_row snapshot config decidedAt hrow hid]
    simp [Assignment.enact, hwaits]
  have hplan := (revision snapshot config decidedAt).plan task.task
  obtain ⟨hqueued, hhead, hexceeds⟩ :=
    isMatchable_and_isTooLarge_iff.mp ⟨hmatchable, hlarge⟩
  rw [isMatchable_and_isTooLarge_iff,
    (relates_following snapshot config decidedAt).ground.groupSize_eq config]
  simp only [Task.isQueued, PreparedTask.group, Revision.task_prepared,
    Revision.isChainHead_prepared, hstatus, Task.group_eq_of_plan hplan,
    Task.nodes_eq_of_plan hplan]
  exact ⟨hqueued, hhead, hexceeds⟩

/-- Who is listed is listed again once the tick is enacted. -/
theorem listed_following {id : TaskId} (later : Instant)
    (hlisted : id ∈
      (schedule snapshot config decidedAt).assignment.infeasible) :
    id ∈
      (schedule (following snapshot config decidedAt) config
        later).assignment.infeasible := by
  obtain ⟨task, htask, hid, hmatchable, hlarge⟩ :=
    (mem_schedule_infeasible_iff snapshot config decidedAt).mp hlisted
  rw [mem_schedule_infeasible_iff, tasks_following]
  exact ⟨_, List.mem_map_of_mem htask, by rw [Revision.id_prepared, hid],
    isTooLarge_following snapshot config decidedAt htask hmatchable hlarge⟩

end Once

section Ticks

variable (snapshot : Snapshot) (config : EngineConfig)

/-- Once listed, a task is listed in every later tick. -/
theorem listed_tickAssignment (clock : Nat → Instant) {earlier later : Nat}
    (hlater : earlier ≤ later) {id : TaskId}
    (hlisted : id ∈ (tickAssignment snapshot config clock earlier).infeasible) :
    id ∈ (tickAssignment snapshot config clock later).infeasible := by
  induction later, hlater using Nat.le_induction with
  | base => exact hlisted
  | succ later _ ih =>
    exact listed_following _ config (clock later) (clock (later + 1)) ih

/-- The list of the tasks that are too large is exact, and whoever is on it once
never starts, however many ticks are enacted. -/
theorem infeasibility_exact_and_permanent (decidedAt : Instant) :
    (schedule snapshot config decidedAt).assignment.ListsTooLarge
        (workingSet snapshot config) ∧
      ∀ clock earlier later, earlier ≤ later →
        ∀ id ∈ (tickAssignment snapshot config clock earlier).infeasible,
        (tickAssignment snapshot config clock later).LeavesOut id := by
  refine ⟨listsTooLarge_schedule snapshot config decidedAt, ?_⟩
  intro clock earlier later hlater id hlisted
  exact leavesOut_of_listed _ config (clock later)
    (listed_tickAssignment snapshot config clock hlater hlisted)

/-- One node, a validation task that asks for two, and a training task that asks
for one. -/
def oversizedTask : Snapshot :=
  { group := ⟨"train"⟩ : Scenario }
    |>.addReadyNode ⟨"n1"⟩ "room"
    |>.addQuotaHolder ⟨"alice"⟩ 2
    |>.addQueued ⟨1⟩ ⟨"alice"⟩ 30 2
    |>.changeLastTask (fun task => { task with taskType := .validation })
    |>.addQueued ⟨2⟩ ⟨"alice"⟩ 10 1
    |>.snapshot default

/-- The validation task is listed in the first tick, where the other task
starts, and is left out of all ticks. -/
theorem infeasibility_exact_and_permanent_oversizedTask :
    (schedule oversizedTask {} default).assignment.infeasible = [⟨1⟩] ∧
      (schedule oversizedTask {} default).assignment.intents.intents.map
          Intent.taskId = [⟨2⟩] ∧
      (schedule oversizedTask {} default).assignment.ListsTooLarge
        (workingSet oversizedTask {}) ∧
      ∀ later,
        (tickAssignment oversizedTask {} (fun _ => default) later).LeavesOut
          ⟨1⟩ := by
  obtain ⟨hlists, hforever⟩ :=
    infeasibility_exact_and_permanent oversizedTask {} default
  have hlisted :
      (schedule oversizedTask {} default).assignment.infeasible = [⟨1⟩] := by
    decide +kernel
  refine ⟨hlisted, by decide +kernel, hlists, fun later => ?_⟩
  apply hforever (fun _ => default) 0 later (Nat.zero_le later)
  show ⟨1⟩ ∈ (schedule oversizedTask {} default).assignment.infeasible
  rw [hlisted]
  exact List.mem_singleton_self _

end Ticks

end Tick

end ClusterTick
