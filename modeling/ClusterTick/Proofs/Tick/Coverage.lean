import ClusterTick.Proofs.Tick.Enactment

/-!
# One decision for every task that is matched

A tick decides once on each scheduled task and on the latest queued attempt of
each chain, and on nothing else.  Its rows are the rows of the working set with
a verdict on them, and its nodes are the nodes of the working set with their
occupants after the tick: everything else is handed through as it came.
-/

namespace ClusterTick

/-- A row that says of a task what is decided on it.  Only a task that starts
gets nodes, and starts its time anew. -/
def Task.IsVerdictOn (row task : Task) : Prop :=
  row = { task with
    schedulerResult := row.schedulerResult
    processResult := row.processResult
    schedulerMessage := row.schedulerMessage
    assignedNodes :=
      if row.processResult = .startup then row.assignedNodes
      else task.assignedNodes
    runningSeconds :=
      if row.processResult = .startup then row.runningSeconds
      else task.runningSeconds }

namespace Ruling

variable {partition : Partition} {pass : MatchPass} {rows : List Task}
  {candidate : Candidate}
variable {row : Task}

theorem isVerdictOn (hruling : Ruling partition pass rows candidate row) :
    row.IsVerdictOn candidate.task := by
  cases hruling <;> rfl

/-- A scheduled task keeps running or is suspended. -/
theorem keepRunning_or_suspend
    (hruling : Ruling partition pass rows candidate row)
    (hscheduled : candidate.task.isScheduled) :
    row.processResult = .keepRunning ∨ row.processResult = .suspend := by
  cases hruling with
  | kept => exact Or.inl rfl
  | suspended | preempted => exact Or.inr rfl
  | infeasible hwaiting | heldBack hwaiting | started hwaiting
  | waiting hwaiting =>
    simp [hscheduled] at hwaiting

/-- A queued task starts or waits. -/
theorem startup_or_notSure (hruling : Ruling partition pass rows candidate row)
    (hwaiting : candidate.task.isScheduled = false) :
    row.processResult = .startup ∨ row.processResult = .notSure := by
  cases hruling with
  | kept hscheduled | suspended hscheduled | preempted hscheduled =>
    simp [hscheduled] at hwaiting
  | started => exact Or.inl rfl
  | infeasible | heldBack | waiting => exact Or.inr rfl

end Ruling

/-- An assignment decides once on each task of a working set that is to be
matched, and leaves the rest of the working set as it is. -/
structure Assignment.Covers (assignment : Assignment) (set : WorkingSet) :
    Prop where
  /-- No task has two rows. -/
  distinct : (assignment.tasks.map Task.id).Nodup
  /-- The tasks with a row are the scheduled ones and the latest queued
  attempts. -/
  decided : ∀ id,
    id ∈ assignment.tasks.map Task.id ↔
      ∃ prepared ∈ set.tasks, prepared.id = id ∧
        (prepared.task.isScheduled ∨
          prepared.task.isQueued ∧ prepared.isChainHead)
  /-- No partition has decided on a task of another one. -/
  collisions : assignment.collisions = 0
  /-- Each row is a verdict on the row of its task. -/
  verdict : ∀ row ∈ assignment.tasks, ∀ prepared ∈ set.tasks,
    row.id = prepared.id → row.IsVerdictOn prepared.task
  scheduled : ∀ row ∈ assignment.tasks, ∀ prepared ∈ set.tasks,
    row.id = prepared.id → prepared.task.isScheduled →
    row.processResult = .keepRunning ∨ row.processResult = .suspend
  queued : ∀ row ∈ assignment.tasks, ∀ prepared ∈ set.tasks,
    row.id = prepared.id → prepared.task.isQueued →
    row.processResult = .startup ∨ row.processResult = .notSure
  /-- The nodes stand in the order of their names, each once. -/
  nodeOrder : assignment.nodes.Pairwise fun left right =>
    compare left.name right.name = .lt
  /-- They are those of the working set but for their occupants. -/
  nodes : assignment.nodes.map Node.vacated = set.nodes.map Node.vacated

namespace Tick

variable (snapshot : Snapshot) (config : EngineConfig) (decidedAt : Instant)

/-- The row that an assignment has for a task is a ruling on it. -/
theorem exists_ruling {row : Task}
    (hrow : row ∈ (schedule snapshot config decidedAt).assignment.tasks)
    {task : PreparedTask} (htask : task ∈ (workingSet snapshot config).tasks)
    (hid : row.id = task.id) :
    ∃ (partition : Partition) (pass : MatchPass) (rows : List Task),
      Ruling partition pass rows (candidateOf (prepare snapshot config) task)
        row := by
  rw [schedule_tasks] at hrow
  obtain ⟨pass, frame, -, -, -, hruling⟩ :=
    (allReady_prepare snapshot config).ruling_of_id htask hrow hid
  exact ⟨_, pass, _, hruling⟩

/-- A tick decides once on each task that is to be matched. -/
theorem covers_schedule :
    (schedule snapshot config decidedAt).assignment.Covers
      (workingSet snapshot config) where
  distinct := nodup_schedule_tasks snapshot config decidedAt
  decided := by
    intro id
    rw [schedule_tasks, (allReady_prepare snapshot config).ids_tickRows.mem_iff,
      List.mem_map]
    simp only [List.mem_filter, PreparedTask.isMatchable, Bool.or_eq_true,
      Bool.and_eq_true]
    constructor
    · rintro ⟨task, ⟨htask, hmatchable⟩, hid⟩
      exact ⟨task, htask, hid, hmatchable⟩
    · rintro ⟨task, htask, hid, hmatchable⟩
      exact ⟨task, ⟨htask, hmatchable⟩, hid⟩
  collisions := schedule_collisions snapshot config decidedAt
  verdict := by
    intro row hrow task htask hid
    obtain ⟨_, _, _, hruling⟩ :=
      exists_ruling snapshot config decidedAt hrow htask hid
    exact hruling.isVerdictOn
  scheduled := by
    intro row hrow task htask hid hscheduled
    obtain ⟨_, _, _, hruling⟩ :=
      exists_ruling snapshot config decidedAt hrow htask hid
    exact hruling.keepRunning_or_suspend hscheduled
  queued := by
    intro row hrow task htask hid hqueued
    obtain ⟨_, _, _, hruling⟩ :=
      exists_ruling snapshot config decidedAt hrow htask hid
    exact hruling.startup_or_notSure
      (Task.isScheduled_eq_false_of_isQueued hqueued)
  nodeOrder := by
    rw [schedule_nodes]
    exact mergeNodes_ordered _
  nodes := by
    rw [schedule_nodes]
    exact (allReady_prepare snapshot config).vacated_tickFrame

end Tick

end ClusterTick
