import ClusterTick.Proofs.Tick.Assembly

/-!
# One group's share of a tick

An assignment is put together from what each pass makes of each group.  Read
backwards: a row of the assignment is a row of its task's pass over its task's
group, and the nodes of a group are as the training pass over that group leaves
them.
-/

namespace ClusterTick

/-- The pass that decides on a task. -/
def MatchPass.ofTask (task : Task) : MatchPass :=
  if task.isValidation then .validation else .training

theorem MatchPass.includes_iff {pass : MatchPass} {task : Task} :
    pass.includes task ↔ pass = .ofTask task := by
  cases pass <;> cases hvalidation : task.isValidation <;>
    simp [includes, ofTask, hvalidation]

theorem MatchPass.ofTask_eq_of_request {left right : Task}
    (hsame : left.request = right.request) : ofTask left = ofTask right := by
  rw [ofTask, ofTask, Task.isValidation_eq_of_request hsame]

/-- A pass leaves the nodes in the order of their names. -/
theorem Partition.ordered_run {partition : Partition} {pass : MatchPass}
    (hsound : partition.Sound pass) : (partition.run pass).nodes.Pairwise
      fun left right => compare left.name right.name = .lt := by
  obtain ⟨htracks, -⟩ :=
    tracks_walk hsound (partition.agenda_perm pass).subset hsound.nodup_agenda
  have hordered : partition.opening.names.Pairwise
      fun left right => compare left right = .lt := by
    have hrows :
        (OrderedMap.lastRows Node.name
          partition.nodes).Pairwise fun left right =>
            compare left.name right.name = .lt :=
      OrderedMap.lastRows_ordered
    simpa [MatchState.names, opening, MatchState.ofNodes,
        List.pairwise_map] using
      hrows
  rw [← htracks.names, MatchState.names, List.pairwise_map] at hordered
  rw [run_eq, MatchState.outcome, List.pairwise_map]
  exact hordered

namespace Tick

variable {prepared : Prepared}

/-- The frame that a pass starts from. -/
def passFrame (prepared : Prepared) : MatchPass → List Node
  | .validation => prepared.workingSet.nodes
  | .training => trainingFrame prepared

/-- What a pass makes of a group. -/
def share (prepared : Prepared) (pass : MatchPass) (group : GroupName) :
    MatchOutcome :=
  groupOutcome prepared pass (passFrame prepared pass) group

theorem AllReady.passFrame (hready : AllReady prepared) (pass : MatchPass) :
    Ready prepared pass (passFrame prepared pass) := by
  cases pass with
  | validation => exact hready .validation
  | training => exact hready.training

section Rows

variable {pass : MatchPass} {frame : List Node} {group : GroupName}

/-- The row of a task is a ruling on the task. -/
theorem Ready.ruling_of_id (hready : Ready prepared pass frame)
    {task : PreparedTask} (htask : task ∈ prepared.workingSet.tasks)
    {row : Task} (hid : row.id = task.id)
    (hrow : row ∈ (groupOutcome prepared pass frame group).tasks) :
    task ∈ matchable prepared.workingSet pass ∧ task.group = group ∧
      Ruling (groupPartition prepared pass frame group) pass
        (groupOutcome prepared pass frame group).tasks
        (candidateOf prepared task) row := by
  obtain ⟨other, hother, hgroup, hruling⟩ := hready.ruling_of_mem hrow
  obtain rfl : other = task := by
    apply List.inj_on_of_nodup_map hready.taskIds
      (mem_matchable_iff.mp hother).1 htask
    exact hruling.id_eq.symm.trans hid
  exact ⟨hother, hgroup, hruling⟩

theorem Ready.ofTask_of_mem (hready : Ready prepared pass frame) {row : Task}
    (hrow : row ∈ passRows prepared pass frame) : pass = .ofTask row := by
  obtain ⟨task, htask, hruling⟩ := hready.ruled hrow
  rw [MatchPass.ofTask_eq_of_request hruling.request_eq]
  exact MatchPass.includes_iff.mp (mem_matchable_iff.mp htask).2.1

/-- A row of an assignment comes from its task's pass over its task's group. -/
theorem AllReady.mem_tickRows_iff (hready : AllReady prepared) {row : Task} :
    row ∈ tickRows prepared ↔
      row ∈ (share prepared (.ofTask row) row.group).tasks := by
  have hlocal : ∀ pass,
      row ∈ passRows prepared pass (Tick.passFrame prepared pass) ↔
        row ∈ (share prepared pass row.group).tasks :=
    fun pass => (hready.passFrame pass).mem_passRows_iff
  rw [tickRows, List.mem_append]
  constructor
  · intro hrow
    rcases hrow with hvalidated | htrained
    · rw [← (hready .validation).ofTask_of_mem hvalidated]
      exact (hlocal .validation).mp hvalidated
    · rw [← hready.training.ofTask_of_mem htrained]
      exact (hlocal .training).mp htrained
  · intro hrow
    cases hpass : MatchPass.ofTask row with
    | validation => exact Or.inl ((hlocal .validation).mpr (hpass ▸ hrow))
    | training => exact Or.inr ((hlocal .training).mpr (hpass ▸ hrow))

/-- The row of a task comes from the pass that decides on the task. -/
theorem AllReady.mem_tickRows_of_id (hready : AllReady prepared)
    {task : PreparedTask} (htask : task ∈ prepared.workingSet.tasks)
    {row : Task} (hid : row.id = task.id) :
    row ∈ tickRows prepared ↔
      row ∈ (share prepared (.ofTask task.task) task.group).tasks := by
  have hplace : ∀ pass group, row ∈ (share prepared pass group).tasks →
      MatchPass.ofTask row = .ofTask task.task ∧ row.group = task.group := by
    intro pass group hrow
    obtain ⟨-, -, hruling⟩ :=
      (hready.passFrame pass).ruling_of_id htask hid hrow
    exact ⟨MatchPass.ofTask_eq_of_request hruling.request_eq, hruling.group_eq⟩
  rw [hready.mem_tickRows_iff]
  constructor
  · intro hrow
    obtain ⟨hpass, hgroup⟩ := hplace _ _ hrow
    rwa [hpass, hgroup] at hrow
  · intro hrow
    obtain ⟨hpass, hgroup⟩ := hplace _ _ hrow
    rwa [hpass, hgroup]

theorem Ready.groupOutcome_tasks_of_idle (hready : Ready prepared pass frame)
    (hidle : group ∉ passGroups prepared pass) :
    (groupOutcome prepared pass frame group).tasks = [] := by
  rw [List.eq_nil_iff_forall_not_mem]
  intro row hrow
  obtain ⟨task, htask, hgroup, -⟩ := hready.ruling_of_mem hrow
  exact hidle (mem_passGroups_iff.mpr ⟨task, htask, hgroup⟩)

/-- Of several groups without repeats, one contributes its own rows only. -/
theorem flatMap_ite_eq {groups : List GroupName} (hdistinct : groups.Nodup)
    (rows : List Task) :
    (groups.flatMap fun other => if other = group then rows else []) =
      if group ∈ groups then rows else [] := by
  induction groups with
  | nil => rfl
  | cons other rest ih =>
    rw [List.nodup_cons] at hdistinct
    rw [List.flatMap_cons, ih hdistinct.2]
    by_cases hother : other = group
    · subst hother
      simp [hdistinct.1]
    · simp [hother, Ne.symm hother]

/-- The rows of a group stand together, in the order in which they were
decided. -/
theorem Ready.filter_passRows (hready : Ready prepared pass frame)
    (group : GroupName) :
    (passRows prepared pass frame).filter (fun row => row.group = group) =
      (groupOutcome prepared pass frame group).tasks := by
  have hown : ∀ other,
      (groupOutcome prepared pass frame other).tasks.filter
          (fun row => row.group = group) =
        if other = group then (groupOutcome prepared pass frame group).tasks
        else [] := by
    intro other
    by_cases hother : other = group
    · rw [hother, if_pos rfl, List.filter_eq_self]
      intro row hrow
      simpa using hready.group_of_mem hrow
    · rw [if_neg hother, List.filter_eq_nil_iff]
      intro row hrow
      simpa [hready.group_of_mem hrow] using hother
  have hdistinct : (passGroups prepared pass).Nodup := nodup_sortedKeys _
  rw [passRows, List.filter_flatMap]
  simp only [hown]
  rw [flatMap_ite_eq hdistinct]
  by_cases hgroup : group ∈ passGroups prepared pass
  · exact if_pos hgroup
  · exact (if_neg hgroup).trans (hready.groupOutcome_tasks_of_idle hgroup).symm

/-- The rows that an assignment has for a group. -/
theorem AllReady.filter_tickRows (hready : AllReady prepared)
    (group : GroupName) :
    (tickRows prepared).filter (fun row => row.group = group) =
      (share prepared .validation group).tasks ++
        (share prepared .training group).tasks := by
  rw [tickRows, List.filter_append, (hready .validation).filter_passRows,
    hready.training.filter_passRows]
  rfl

end Rows

section Nodes

variable {pass : MatchPass} {frame : List Node} {group : GroupName}

theorem Ready.ordered_groupOutcome (hready : Ready prepared pass frame)
    (group : GroupName) :
    (groupOutcome prepared pass frame group).nodes.Pairwise fun left right =>
      compare left.name right.name = .lt :=
  Partition.ordered_run (hready.sound group)

/-- After a pass the nodes of a group are as the group leaves them. -/
theorem Ready.filter_frameAfter (hready : Ready prepared pass frame)
    (group : GroupName) :
    (Tick.frameAfter prepared pass frame).filter
        (fun node => node.group = group) =
      (groupOutcome prepared pass frame group).nodes := by
  have hframe :
      ((Tick.frameAfter prepared pass frame).filter fun node =>
          node.group = group).Pairwise fun left right =>
        compare left.name right.name = .lt :=
    (mergeNodes_ordered _).sublist List.filter_sublist
  apply OrderedMap.eq_of_ordered_of_mem_iff hframe
    (hready.ordered_groupOutcome group)
  intro node
  rw [List.mem_filter, decide_eq_true_eq, hready.mem_frameAfter_iff]
  constructor
  · rintro ⟨hnode, rfl⟩
    exact hnode
  · intro hnode
    have hgroup := hready.node_group hnode
    rw [hgroup]
    exact ⟨hnode, rfl⟩

/-- Two passes leave the same frame if they leave every group alike. -/
theorem frameAfter_congr {left right : Prepared} {earlier later : List Node}
    (hleft : Ready left pass earlier) (hright : Ready right pass later)
    (hnodes : ∀ group, (groupOutcome left pass earlier group).nodes =
      (groupOutcome right pass later group).nodes) :
    frameAfter left pass earlier = frameAfter right pass later := by
  have hordered : ∀ (prepared : Prepared) (frame : List Node),
      (frameAfter prepared pass frame).Pairwise
        fun left right => compare left.name right.name = .lt :=
    fun _ _ => mergeNodes_ordered _
  apply OrderedMap.eq_of_ordered_of_mem_iff (hordered left earlier)
    (hordered right later)
  intro node
  rw [hleft.mem_frameAfter_iff, hright.mem_frameAfter_iff, hnodes]

/-- The training pass over a group starts from what the validation pass leaves
of it. -/
theorem AllReady.filter_trainingFrame (hready : AllReady prepared)
    (group : GroupName) :
    (trainingFrame prepared).filter (fun node => node.group = group) =
      (share prepared .validation group).nodes :=
  (hready .validation).filter_frameAfter group

/-- Where no validation task of a group is decided on, its training pass starts
from the working set. -/
theorem AllReady.groupPartition_training_of_idle (hready : AllReady prepared)
    (hidle : group ∉ passGroups prepared .validation) :
    groupPartition prepared .training (trainingFrame prepared) group =
      groupPartition prepared .training prepared.workingSet.nodes group := by
  have hnodes : (share prepared .validation group).nodes =
      (groupPartition prepared .validation prepared.workingSet.nodes
        group).nodes :=
    (hready .validation).groupOutcome_of_idle hidle
  rw [groupPartition, hready.filter_trainingFrame group, hnodes]
  rfl

/-- Where two validation passes leave a group alike, both training passes start
alike. -/
theorem filter_trainingFrame_congr {left right : Prepared}
    (hleft : AllReady left) (hright : AllReady right)
    (hnodes : (share left .validation group).nodes =
      (share right .validation group).nodes) :
    (trainingFrame left).filter (fun node => node.group = group) =
      (trainingFrame right).filter fun node => node.group = group := by
  rw [hleft.filter_trainingFrame, hnodes, hright.filter_trainingFrame]

/-- An assignment has the nodes of a group as its training pass leaves them. -/
theorem AllReady.filter_tickFrame (hready : AllReady prepared)
    (group : GroupName) :
    (tickFrame prepared).filter (fun node => node.group = group) =
      (share prepared .training group).nodes :=
  hready.training.filter_frameAfter group

end Nodes

end Tick

end ClusterTick
