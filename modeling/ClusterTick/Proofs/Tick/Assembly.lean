import ClusterTick.Proofs.Rules.Eligibility
import ClusterTick.Proofs.Tick.Phase

/-!
# Both passes together

The training pass starts from the frame that the validation pass leaves, and no
task is decided on twice.  So the rows of an assignment are those of both
passes, its nodes are the frame after both, and a node is occupied as the rows
say unless its task belongs to another group.
-/

namespace ClusterTick

theorem Task.isScheduled_eq_false_of_isQueued {task : Task}
    (hqueued : task.isQueued) : task.isScheduled = false := by
  rw [isQueued, decide_eq_true_eq] at hqueued
  simp [isScheduled, hqueued]

theorem PreparedTask.isQueued_of_isMatchable {prepared : PreparedTask}
    (hmatchable : prepared.isMatchable)
    (hwaiting : prepared.task.isScheduled = false) :
    prepared.task.isQueued := by
  rw [isMatchable, hwaiting, Bool.false_or, Bool.and_eq_true] at hmatchable
  exact hmatchable.1

namespace Tick

variable {prepared : Prepared} {frame : List Node}

section Passes

theorem mem_matchable_iff {set : WorkingSet} {pass : MatchPass}
    {task : PreparedTask} :
    task ∈ matchable set pass ↔
      task ∈ set.tasks ∧ pass.includes task.task ∧ task.isMatchable := by
  simp [matchable]

theorem isValidation_of_mem_matchable {set : WorkingSet} {task : PreparedTask}
    (htask : task ∈ matchable set .training) :
    task.task.isValidation = false := by
  simpa [MatchPass.includes] using (mem_matchable_iff.mp htask).2.1

theorem matchable_perm (set : WorkingSet) :
    (matchable set .validation ++ matchable set .training).Perm
      (set.tasks.filter PreparedTask.isMatchable) := by
  have hvalidation : matchable set .validation =
      (set.tasks.filter PreparedTask.isMatchable).filter fun task =>
        task.task.isValidation := by
    rw [List.filter_filter]
    rfl
  have htraining : matchable set .training =
      (set.tasks.filter PreparedTask.isMatchable).filter fun task =>
        !task.task.isValidation := by
    rw [List.filter_filter]
    rfl
  rw [hvalidation, htraining]
  exact List.filter_append_perm _ _

theorem exists_vacated_of_mem {left right : List Node}
    (hsame : left.map Node.vacated = right.map Node.vacated) {node : Node}
    (hnode : node ∈ left) : ∃ other ∈ right, other.vacated = node.vacated := by
  have hvacant : node.vacated ∈ right.map Node.vacated :=
    hsame ▸ List.mem_map_of_mem hnode
  exact List.mem_map.mp hvacant

/-- A pass leaves what a pass over other tasks may rely on. -/
theorem Ready.frameAfter {pass other : MatchPass}
    (hready : Ready prepared pass frame) (hother : Ready prepared other frame)
    (hapart : ∀ task ∈ matchable prepared.workingSet other,
      task.id ∉ (matchable prepared.workingSet pass).map PreparedTask.id) :
    Ready prepared other (frameAfter prepared pass frame) where
  ordered := mergeNodes_ordered _
  taskIds := hready.taskIds
  occupant := by
    intro node hnode task htask hworking
    rw [hready.working_frameAfter_iff hnode] at hworking
    rcases hworking with
      ⟨row, hrow, hid, -⟩ | ⟨-, before, hbefore, hname, hheld⟩
    · exact absurd (hready.ids_passRows.subset (List.mem_map_of_mem hrow))
        (hid ▸ hapart task htask)
    · rw [← hname]
      exact hother.occupant before hbefore task htask hheld
  undisputed := by
    intro task htask hscheduled hrunning node hnode hlisted
    obtain ⟨before, hbefore, hsame⟩ :=
      exists_vacated_of_mem hready.vacated_frameAfter hnode
    rw [← Node.name_eq_of_vacated hsame] at hlisted ⊢
    obtain ⟨hheld, hcount⟩ :=
      hother.undisputed task htask hscheduled hrunning before hbefore hlisted
    refine ⟨(hready.working_frameAfter_iff hnode).mpr
        (Or.inr ⟨?_, before, hbefore, Node.name_eq_of_vacated hsame, hheld⟩),
      hcount⟩
    intro row hrow hid _
    exact hapart task htask
      (hid ▸ hready.ids_passRows.subset (List.mem_map_of_mem hrow))

/-- A working set is ready for both passes. -/
theorem ready_prepare (snapshot : Snapshot) (config : EngineConfig)
    (pass : MatchPass) :
    Ready (prepare snapshot config) pass
      (workingSet snapshot config).nodes where
  ordered := (consistent_workingSet snapshot config).nodeOrder
  taskIds := (consistent_workingSet snapshot config).taskIds
  occupant := by
    intro node hnode task htask hworking
    have hconsistent := consistent_workingSet snapshot config
    obtain ⟨holder, hholder, hid, hholds⟩ :=
      hconsistent.occupant node hnode task.id hworking
    have hmem := (mem_matchable_iff.mp htask).1
    rwa [List.inj_on_of_nodup_map hconsistent.taskIds hholder hmem
      hid] at hholds
  undisputed := by
    intro task htask hscheduled hrunning node hnode hlisted
    obtain ⟨-, -, -, -, hconflict, -⟩ := mayKeepRunning_eq_approved hrunning
    exact (consistent_workingSet snapshot config).undisputed task
      (mem_matchable_iff.mp htask).1 hscheduled hconflict node hnode hlisted

end Passes

section Rows

variable (prepared)

/-- The frame that the training pass starts from. -/
def trainingFrame : List Node :=
  frameAfter prepared .validation prepared.workingSet.nodes

/-- The rows of both passes. -/
def tickRows : List Task :=
  passRows prepared .validation prepared.workingSet.nodes ++
    passRows prepared .training (trainingFrame prepared)

/-- The frame after both passes. -/
def tickFrame : List Node :=
  frameAfter prepared .training (trainingFrame prepared)

theorem validationPhase_frame :
    (validationPhase prepared).frame = trainingFrame prepared := by
  simp [validationPhase, partitions_eq, trainingFrame, frameAfter, passNodes,
    groupOutcome, List.flatMap_map]

theorem validationPhase_tasks : (validationPhase prepared).tasks =
    passRows prepared .validation prepared.workingSet.nodes := by
  simp [validationPhase, partitions_eq, passRows, groupOutcome,
    List.flatMap_map]

theorem trainingOutcomes_eq :
    trainingOutcomes prepared (validationPhase prepared) =
      (passGroups prepared .training).map fun group =>
        ⟨group,
          groupOutcome prepared .training (trainingFrame prepared) group⟩ := by
  simp [trainingOutcomes, trainingOutcome, trainingPartitions, partitions_eq,
    validationPhase_frame, groupOutcome, groupPartition]

end Rows

section Outcome

/-! ## What a tick leaves behind -/

/-- What both passes may rely on. -/
def AllReady (prepared : Prepared) : Prop :=
  ∀ pass, Ready prepared pass prepared.workingSet.nodes

theorem allReady_prepare (snapshot : Snapshot) (config : EngineConfig) :
    AllReady (prepare snapshot config) :=
  ready_prepare snapshot config

theorem AllReady.nodup_matchable (hready : AllReady prepared) :
    ((matchable prepared.workingSet .validation ++
        matchable prepared.workingSet .training).map
      PreparedTask.id).Nodup := by
  have hperm := (matchable_perm prepared.workingSet).map PreparedTask.id
  exact hperm.nodup_iff.mpr
    ((hready .training).taskIds.sublist (List.filter_sublist.map _))

theorem AllReady.training (hready : AllReady prepared) :
    Ready prepared .training (trainingFrame prepared) := by
  apply (hready .validation).frameAfter (hready .training)
  intro task htask hvalidated
  have hdistinct := hready.nodup_matchable
  rw [List.map_append, List.nodup_append'] at hdistinct
  exact hdistinct.2.2 hvalidated (List.mem_map_of_mem htask)

/-- Every task that is matched has one row. -/
theorem AllReady.ids_tickRows (hready : AllReady prepared) :
    ((tickRows prepared).map Task.id).Perm
      ((prepared.workingSet.tasks.filter PreparedTask.isMatchable).map
        PreparedTask.id) := by
  have hboth : ((tickRows prepared).map Task.id).Perm
      ((matchable prepared.workingSet .validation ++
        matchable prepared.workingSet .training).map PreparedTask.id) := by
    rw [tickRows, List.map_append, List.map_append]
    exact (hready .validation).ids_passRows.append hready.training.ids_passRows
  exact hboth.trans ((matchable_perm prepared.workingSet).map PreparedTask.id)

theorem AllReady.nodup_tickRows (hready : AllReady prepared) :
    ((tickRows prepared).map Task.id).Nodup :=
  hready.ids_tickRows.nodup_iff.mpr
    ((hready .training).taskIds.sublist (List.filter_sublist.map _))

theorem AllReady.row_unique (hready : AllReady prepared) {left right : Task}
    (hleft : left ∈ tickRows prepared) (hright : right ∈ tickRows prepared)
    (hid : left.id = right.id) : left = right :=
  List.inj_on_of_nodup_map hready.nodup_tickRows hleft hright hid

theorem AllReady.vacated_tickFrame (hready : AllReady prepared) :
    (tickFrame prepared).map Node.vacated =
      prepared.workingSet.nodes.map Node.vacated := calc
  (tickFrame prepared).map Node.vacated =
      (trainingFrame prepared).map Node.vacated :=
    hready.training.vacated_frameAfter
  _ = prepared.workingSet.nodes.map Node.vacated :=
    (hready .validation).vacated_frameAfter

/-- Every row is a ruling of one of the passes. -/
theorem AllReady.ruled (hready : AllReady prepared) {row : Task}
    (hrow : row ∈ tickRows prepared) :
    ∃ (pass : MatchPass) (frame : List Node), Ready prepared pass frame ∧
      frame.map Node.vacated = prepared.workingSet.nodes.map Node.vacated ∧
      ∃ task ∈ matchable prepared.workingSet pass,
        Ruling (groupPartition prepared pass frame task.group) pass
          (tickRows prepared) (candidateOf prepared task) row := by
  rcases List.mem_append.mp hrow with hvalidated | htrained
  · obtain ⟨task, htask, hruling⟩ := (hready .validation).ruled hvalidated
    exact ⟨.validation, prepared.workingSet.nodes, hready .validation, rfl,
      task, htask, hruling.mono fun _ hmem _ => List.mem_append_left _ hmem⟩
  · obtain ⟨task, htask, hruling⟩ := hready.training.ruled htrained
    exact ⟨.training, trainingFrame prepared, hready.training,
      (hready .validation).vacated_frameAfter, task, htask,
      hruling.mono fun _ hmem _ => List.mem_append_right _ hmem⟩

/-- After a tick a node is occupied as the rows say, or as before by a task of
another group. -/
theorem AllReady.working_tickFrame_iff (hready : AllReady prepared)
    {node : Node} (hnode : node ∈ tickFrame prepared) {id : TaskId} :
    node.working = some id ↔
      (∃ row ∈ tickRows prepared, row.id = id ∧ row.isHolding ∧
          node.name ∈ row.assignedNodes) ∨
        (∀ row ∈ tickRows prepared, row.id = id → row.group ≠ node.group) ∧
          ∃ before ∈ prepared.workingSet.nodes, before.name = node.name ∧
            before.working = some id := by
  obtain ⟨between, hbetween, hsame⟩ :=
    exists_vacated_of_mem hready.training.vacated_frameAfter hnode
  have hname : between.name = node.name := Node.name_eq_of_vacated hsame
  have hgroup : between.group = node.group := Node.group_eq_of_vacated hsame
  have hstart : between.working = some id ↔ _ :=
    (hready .validation).working_frameAfter_iff hbetween
  rw [hname, hgroup] at hstart
  rw [hready.training.working_frameAfter_iff hnode, tickRows]
  constructor
  · rintro (⟨row, hrow, hheld⟩ | ⟨htrained, other, hother, hotherName,
      hworking⟩)
    · exact Or.inl ⟨row, List.mem_append_right _ hrow, hheld⟩
    · rw [hready.training.node_unique hother hbetween
          (hotherName.trans hname.symm), hstart] at hworking
      rcases hworking with ⟨row, hrow, hheld⟩ | ⟨hvalidated, hbefore⟩
      · exact Or.inl ⟨row, List.mem_append_left _ hrow, hheld⟩
      · refine Or.inr ⟨?_, hbefore⟩
        intro row hrow
        exact (List.mem_append.mp hrow).elim (hvalidated row) (htrained row)
  · rintro (⟨row, hrow, hid, hheld⟩ | ⟨helsewhere, hbefore⟩)
    · rcases List.mem_append.mp hrow with hvalidated | htrained
      · refine Or.inr ⟨?_, between, hbetween, hname,
          hstart.mpr (Or.inl ⟨row, hvalidated, hid, hheld⟩)⟩
        -- No task has a row of either pass.
        intro other hother hotherId
        have hdistinct := hready.nodup_tickRows
        rw [tickRows, List.map_append, List.nodup_append'] at hdistinct
        exact absurd (List.mem_map_of_mem hother)
          (hotherId.trans hid.symm ▸
            hdistinct.2.2 (List.mem_map_of_mem hvalidated))
      · exact Or.inl ⟨row, htrained, hid, hheld⟩
    · refine Or.inr
        ⟨fun row hrow => helsewhere row (List.mem_append_right _ hrow), between,
          hbetween, hname, hstart.mpr (Or.inr ⟨?_, hbefore⟩)⟩
      exact fun row hrow => helsewhere row (List.mem_append_left _ hrow)

end Outcome

section Schedule

variable (snapshot : Snapshot) (config : EngineConfig) (decidedAt : Instant)

theorem effectivePriority_of_request {task : PreparedTask} {row : Task}
    (htask : task ∈ (workingSet snapshot config).tasks)
    (hsame : row.request = task.task.request) :
    WorkingSet.effectivePriority (workingSet snapshot config).users row =
      task.effectivePriority := by
  rw [(consistent_workingSet snapshot config).priority task htask]
  simp only [WorkingSet.effectivePriority, Task.userName_eq_of_request hsame,
    Task.priority_eq_of_request hsame]

/-- The groups are put together in the order in which they are trained. -/
theorem mergeSort_trainingOutcomes (prepared : Prepared) :
    ((trainingOutcomes prepared (validationPhase prepared)).mergeSort
      fun left right => (compare left.group right.group).isLE) =
        trainingOutcomes prepared (validationPhase prepared) := by
  apply mergeSort_of_ordered (compareOn GroupOutcome.group)
  rw [trainingOutcomes_eq, List.pairwise_map]
  exact sortedKeys_ordered _

theorem schedule_nodes : (schedule snapshot config decidedAt).assignment.nodes =
    tickFrame (prepare snapshot config) := by
  simp only [schedule, scheduleFinishing, assemble]
  rw [mergeSort_trainingOutcomes, trainingOutcomes_eq, validationPhase_frame]
  simp [tickFrame, frameAfter, passNodes, List.flatMap_map]

/-- The rows that a tick merges are those of both passes. -/
theorem phase_rows_append (prepared : Prepared) :
    (validationPhase prepared).tasks ++
        ((trainingOutcomes prepared (validationPhase prepared)).map
            GroupOutcome.outcome).flatMap MatchOutcome.tasks =
      tickRows prepared := by
  rw [trainingOutcomes_eq, validationPhase_tasks]
  simp [tickRows, passRows, List.flatMap_map]

theorem schedule_tasks : (schedule snapshot config decidedAt).assignment.tasks =
    tickRows (prepare snapshot config) := by
  simp only [schedule, scheduleFinishing, assemble]
  rw [mergeSort_trainingOutcomes, phase_rows_append,
    keepFirst_of_nodup (allReady_prepare snapshot config).nodup_tickRows]

/-- No row is dropped. -/
theorem schedule_collisions :
    (schedule snapshot config decidedAt).assignment.collisions = 0 := by
  simp only [schedule, scheduleFinishing, assemble]
  rw [mergeSort_trainingOutcomes, phase_rows_append,
    keepFirst_of_nodup (allReady_prepare snapshot config).nodup_tickRows]
  rfl

theorem nodup_schedule_tasks :
    ((schedule snapshot config decidedAt).assignment.tasks.map
      Task.id).Nodup := by
  rw [schedule_tasks]
  exact (allReady_prepare snapshot config).nodup_tickRows

/-- No task has two rows in an assignment. -/
theorem schedule_row_unique {left right : Task}
    (hleft : left ∈ (schedule snapshot config decidedAt).assignment.tasks)
    (hright : right ∈ (schedule snapshot config decidedAt).assignment.tasks)
    (hid : left.id = right.id) : left = right :=
  List.inj_on_of_nodup_map (nodup_schedule_tasks snapshot config decidedAt)
    hleft hright hid

end Schedule

end Tick

end ClusterTick
