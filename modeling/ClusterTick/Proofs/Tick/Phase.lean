import ClusterTick.Proofs.Match.Ruling
import ClusterTick.Proofs.Order.Sorting
import ClusterTick.Proofs.Tick.WorkingSet

/-!
# One pass over all groups

The groups share the nodes of a frame by their labels, and each decides on the
tasks of its own label.  A task may hold a node of another group; that node is
not in the task's partition, so the pass leaves it occupied whatever it decides
on the task.
-/

namespace ClusterTick

theorem Node.name_eq_of_vacated {left right : Node}
    (hsame : left.vacated = right.vacated) : left.name = right.name :=
  show left.vacated.name = right.vacated.name from congrArg Node.name hsame

theorem Node.group_eq_of_vacated {left right : Node}
    (hsame : left.vacated = right.vacated) : left.group = right.group :=
  show left.vacated.group = right.vacated.group from congrArg Node.group hsame

theorem Node.isReady_eq_of_vacated {left right : Node}
    (hsame : left.vacated = right.vacated) : left.isReady = right.isReady :=
  show left.vacated.isReady = right.vacated.isReady from
    congrArg Node.isReady hsame

namespace Tick

section Merge

/-! ## Merged frames -/

theorem mergeNodes_ordered (rows : List Node) : (mergeNodes rows).Pairwise
    fun left right => compare left.name right.name = .lt :=
  mergeSort_key_ordered (nodup_map_keepLast rows)

private theorem mem_mergeNodes_append_iff {earlier later : List Node}
    (hearlier : (earlier.map Node.name).Nodup)
    (hlater : (later.map Node.name).Nodup) {node : Node} :
    node ∈ mergeNodes (earlier ++ later) ↔
      node ∈ later ∨ node ∈ earlier ∧ node.name ∉ later.map Node.name := by
  rw [mergeNodes, List.mem_mergeSort, mem_keepLast_append_iff hearlier hlater]

end Merge

variable (prepared : Prepared) (pass : MatchPass) (frame : List Node)

/-- A task of the working set with the answers of the rules. -/
def candidateOf (task : PreparedTask) : Candidate :=
  ⟨task, prepared.verdicts.forTask task.id⟩

/-- One group's share of a pass over a frame. -/
def groupPartition (group : GroupName) : Partition where
  group := group
  valid := prepared.workingSet.valid
  nodes := frame.filter fun node => node.group = group
  candidates :=
    ((matchable prepared.workingSet pass).filter fun task =>
        task.group = group).map (candidateOf prepared)

/-- The groups that a pass decides on. -/
def passGroups : List GroupName :=
  sortedKeys ((matchable prepared.workingSet pass).map PreparedTask.group)

/-- What the pass makes of a group. -/
def groupOutcome (group : GroupName) : MatchOutcome :=
  (groupPartition prepared pass frame group).run pass

/-- The decisions of a pass, group by group. -/
def passRows : List Task :=
  (passGroups prepared pass).flatMap fun group =>
    (groupOutcome prepared pass frame group).tasks

/-- The nodes that the groups of a pass leave behind. -/
def passNodes : List Node :=
  (passGroups prepared pass).flatMap fun group =>
    (groupOutcome prepared pass frame group).nodes

/-- The frame after a pass. -/
def frameAfter : List Node :=
  mergeNodes (frame ++ passNodes prepared pass frame)

theorem partitions_eq : partitions prepared pass frame =
    (passGroups prepared pass).map (groupPartition prepared pass frame) := rfl

/-- What a pass may rely on about the frame that it starts from. -/
structure Ready : Prop where
  ordered : frame.Pairwise fun left right => compare left.name right.name = .lt
  taskIds : (prepared.workingSet.tasks.map PreparedTask.id).Nodup
  /-- A task of the pass that holds a node is scheduled and lists the node. -/
  occupant : ∀ node ∈ frame, ∀ task ∈ matchable prepared.workingSet pass,
    node.working = some task.id →
    task.task.isScheduled ∧ node.name ∈ task.task.assignedNodes
  /-- A task that may keep its nodes holds those that it lists, and lists them
  once. -/
  undisputed : ∀ task ∈ matchable prepared.workingSet pass,
    task.task.isScheduled →
    prepared.verdicts.running.check task.id = .approved → ∀ node ∈ frame,
    node.name ∈ task.task.assignedNodes →
    node.working = some task.id ∧ task.task.assignedNodes.count node.name = 1

variable {prepared pass frame}

theorem mem_passGroups_iff {group : GroupName} :
    group ∈ passGroups prepared pass ↔
      ∃ task ∈ matchable prepared.workingSet pass, task.group = group := by
  simp [passGroups, mem_sortedKeys_iff]

@[simp]
theorem group_groupPartition (group : GroupName) :
    (groupPartition prepared pass frame group).group = group := rfl

theorem decided_groupPartition (group : GroupName) :
    (groupPartition prepared pass frame group).decided pass =
      ((matchable prepared.workingSet pass).filter fun task =>
          task.group = group).map (candidateOf prepared) := by
  apply List.filter_eq_self.mpr
  intro candidate hcandidate
  obtain ⟨task, htask, rfl⟩ := List.mem_map.mp hcandidate
  exact (List.mem_filter.mp (List.mem_of_mem_filter htask)).2

theorem mem_decided_groupPartition_iff {group : GroupName}
    {candidate : Candidate} :
    candidate ∈ (groupPartition prepared pass frame group).decided pass ↔
      ∃ task ∈ matchable prepared.workingSet pass, task.group = group ∧
        candidateOf prepared task = candidate := by
  simp [decided_groupPartition, and_assoc]

theorem mem_nodes_groupPartition_iff {group : GroupName} {node : Node} :
    node ∈ (groupPartition prepared pass frame group).nodes ↔
      node ∈ frame ∧ node.group = group := by
  simp [groupPartition]

theorem Ready.names (hready : Ready prepared pass frame) :
    (frame.map Node.name).Nodup :=
  OrderedMap.nodup_map_of_ordered hready.ordered

theorem Ready.node_unique (hready : Ready prepared pass frame)
    {left right : Node} (hleft : left ∈ frame) (hright : right ∈ frame)
    (hname : left.name = right.name) : left = right :=
  List.inj_on_of_nodup_map hready.names hleft hright hname

theorem Ready.matchableIds (hready : Ready prepared pass frame) :
    ((matchable prepared.workingSet pass).map PreparedTask.id).Nodup :=
  hready.taskIds.sublist (List.filter_sublist.map _)

theorem Ready.ordered_nodes (hready : Ready prepared pass frame)
    (group : GroupName) :
    (groupPartition prepared pass frame group).nodes.Pairwise fun left right =>
      compare left.name right.name = .lt :=
  hready.ordered.sublist List.filter_sublist

/-- Each group may rely on its partition. -/
theorem Ready.sound (hready : Ready prepared pass frame) (group : GroupName) :
    (groupPartition prepared pass frame group).Sound pass where
  names := OrderedMap.nodup_map_of_ordered (hready.ordered_nodes group)
  ids := by
    rw [decided_groupPartition, List.map_map]
    exact hready.matchableIds.sublist (List.filter_sublist.map _)
  occupant := by
    intro node hnode candidate hcandidate hworking
    obtain ⟨task, htask, -, rfl⟩ := mem_decided_groupPartition_iff.mp hcandidate
    exact hready.occupant node (mem_nodes_groupPartition_iff.mp hnode).1 task
      htask hworking
  undisputed := by
    intro candidate hcandidate hscheduled hrunning node hnode hlisted
    obtain ⟨task, htask, -, rfl⟩ := mem_decided_groupPartition_iff.mp hcandidate
    exact hready.undisputed task htask hscheduled hrunning node
      (mem_nodes_groupPartition_iff.mp hnode).1 hlisted

theorem Ready.settles (hready : Ready prepared pass frame) (group : GroupName) :
    (groupPartition prepared pass frame group).Settles pass
      (groupOutcome prepared pass frame group) :=
  Partition.settles_run (hready.sound group)

section Rows

/-! ## The rows of a pass -/

variable {group : GroupName} {row : Task}

theorem Ready.ruling_of_mem (hready : Ready prepared pass frame)
    (hrow : row ∈ (groupOutcome prepared pass frame group).tasks) :
    ∃ task ∈ matchable prepared.workingSet pass, task.group = group ∧
      Ruling (groupPartition prepared pass frame group) pass
        (groupOutcome prepared pass frame group).tasks
        (candidateOf prepared task) row := by
  obtain ⟨candidate, hcandidate, hruling⟩ :=
    (hready.settles group).ruled row hrow
  obtain ⟨task, htask, hgroup, rfl⟩ :=
    mem_decided_groupPartition_iff.mp hcandidate
  exact ⟨task, htask, hgroup, hruling⟩

theorem Ready.group_of_mem (hready : Ready prepared pass frame)
    (hrow : row ∈ (groupOutcome prepared pass frame group).tasks) :
    row.group = group := by
  obtain ⟨task, -, hgroup, hruling⟩ := hready.ruling_of_mem hrow
  exact hruling.group_eq.trans hgroup

theorem Ready.mem_passRows_iff (hready : Ready prepared pass frame) :
    row ∈ passRows prepared pass frame ↔
      row ∈ (groupOutcome prepared pass frame row.group).tasks := by
  rw [passRows, List.mem_flatMap]
  constructor
  · rintro ⟨group, -, hrow⟩
    rwa [hready.group_of_mem hrow]
  · intro hrow
    obtain ⟨task, htask, hgroup, -⟩ := hready.ruling_of_mem hrow
    exact ⟨row.group, mem_passGroups_iff.mpr ⟨task, htask, hgroup⟩, hrow⟩

/-- Every row of a pass is a ruling of its group on a task of the pass. -/
theorem Ready.ruled (hready : Ready prepared pass frame)
    (hrow : row ∈ passRows prepared pass frame) :
    ∃ task ∈ matchable prepared.workingSet pass,
      Ruling (groupPartition prepared pass frame task.group) pass
        (passRows prepared pass frame) (candidateOf prepared task) row := by
  have hlocal := hready.mem_passRows_iff.mp hrow
  obtain ⟨task, htask, hgroup, hruling⟩ := hready.ruling_of_mem hlocal
  rw [← hgroup] at hruling
  refine ⟨task, htask, hruling.mono ?_⟩
  intro other hother _
  rw [hready.mem_passRows_iff, hready.group_of_mem hother]
  exact hother

theorem Ready.mem_ids_groupOutcome_iff (hready : Ready prepared pass frame)
    {id : TaskId} :
    id ∈ (groupOutcome prepared pass frame group).tasks.map Task.id ↔
      ∃ task ∈ matchable prepared.workingSet pass, task.group = group ∧
        task.id = id := by
  rw [(hready.settles group).ids.mem_iff, decided_groupPartition]
  simp only [List.map_map, List.mem_map, List.mem_filter, decide_eq_true_eq,
    and_assoc]
  exact Iff.rfl

/-- Every task of a pass has one row. -/
theorem Ready.ids_passRows (hready : Ready prepared pass frame) :
    ((passRows prepared pass frame).map Task.id).Perm
      ((matchable prepared.workingSet pass).map PreparedTask.id) := by
  have hdistinct : ((passRows prepared pass frame).map Task.id).Nodup := by
    rw [passRows, List.map_flatMap, List.nodup_flatMap]
    refine ⟨?_, (nodup_sortedKeys _).imp ?_⟩
    · intro group _
      exact (hready.settles group).ids.nodup_iff.mpr (hready.sound group).ids
    · intro left right hne id hleft hright
      obtain ⟨first, hfirst, rfl, rfl⟩ :=
        hready.mem_ids_groupOutcome_iff.mp hleft
      obtain ⟨second, hsecond, rfl, hid⟩ :=
        hready.mem_ids_groupOutcome_iff.mp hright
      rw [List.inj_on_of_nodup_map hready.matchableIds hsecond hfirst
        hid] at hne
      exact hne rfl
  rw [List.perm_ext_iff_of_nodup hdistinct hready.matchableIds]
  intro id
  rw [passRows, List.map_flatMap, List.mem_flatMap, List.mem_map]
  constructor
  · rintro ⟨group, -, hid⟩
    obtain ⟨task, htask, -, rfl⟩ := hready.mem_ids_groupOutcome_iff.mp hid
    exact ⟨task, htask, rfl⟩
  · rintro ⟨task, htask, rfl⟩
    exact ⟨task.group, mem_passGroups_iff.mpr ⟨task, htask, rfl⟩,
      hready.mem_ids_groupOutcome_iff.mpr ⟨task, htask, rfl, rfl⟩⟩

theorem Ready.nodup_passRows (hready : Ready prepared pass frame) :
    ((passRows prepared pass frame).map Task.id).Nodup :=
  hready.ids_passRows.nodup_iff.mpr hready.matchableIds

end Rows

section Nodes

/-! ## The frame after a pass -/

variable {group : GroupName} {node : Node}

theorem Ready.exists_before (hready : Ready prepared pass frame)
    (hnode : node ∈ (groupOutcome prepared pass frame group).nodes) :
    ∃ before ∈ frame, before.group = group ∧ before.vacated = node.vacated := by
  have hvacant :=
    ((hready.settles group).frame node.vacated).mp (List.mem_map_of_mem hnode)
  obtain ⟨before, hbefore, hsame⟩ := List.mem_map.mp hvacant
  obtain ⟨hframe, hgroup⟩ := mem_nodes_groupPartition_iff.mp hbefore
  exact ⟨before, hframe, hgroup, hsame⟩

theorem Ready.node_group (hready : Ready prepared pass frame)
    (hnode : node ∈ (groupOutcome prepared pass frame group).nodes) :
    node.group = group := by
  obtain ⟨before, -, hgroup, hsame⟩ := hready.exists_before hnode
  rw [← hgroup, Node.group_eq_of_vacated hsame]

theorem Ready.nodup_passNodes (hready : Ready prepared pass frame) :
    ((passNodes prepared pass frame).map Node.name).Nodup := by
  rw [passNodes, List.map_flatMap, List.nodup_flatMap]
  refine ⟨fun group _ => (hready.settles group).names,
    (nodup_sortedKeys _).imp ?_⟩
  intro left right hne name hleft hright
  obtain ⟨first, hfirst, rfl⟩ := List.mem_map.mp hleft
  obtain ⟨second, hsecond, hname⟩ := List.mem_map.mp hright
  obtain ⟨before, hbefore, rfl, hsame⟩ := hready.exists_before hfirst
  obtain ⟨other, hother, rfl, hotherSame⟩ := hready.exists_before hsecond
  have hnames : before.name = other.name := calc
    before.name = first.name := Node.name_eq_of_vacated hsame
    _ = second.name := hname.symm
    _ = other.name := (Node.name_eq_of_vacated hotherSame).symm
  exact hne (congrArg Node.group (hready.node_unique hbefore hother hnames))

theorem Ready.groupOutcome_of_idle (hready : Ready prepared pass frame)
    (hidle : group ∉ passGroups prepared pass) :
    (groupOutcome prepared pass frame group).nodes =
      (groupPartition prepared pass frame group).nodes := by
  apply Partition.run_nodes_of_idle _ (hready.ordered_nodes group)
  rw [List.eq_nil_iff_forall_not_mem]
  intro candidate hcandidate
  obtain ⟨task, htask, hgroup, -⟩ :=
    mem_decided_groupPartition_iff.mp hcandidate
  exact hidle (mem_passGroups_iff.mpr ⟨task, htask, hgroup⟩)

theorem Ready.mem_passNodes_iff (hready : Ready prepared pass frame) :
    node ∈ passNodes prepared pass frame ↔
      node.group ∈ passGroups prepared pass ∧
        node ∈ (groupOutcome prepared pass frame node.group).nodes := by
  rw [passNodes, List.mem_flatMap]
  constructor
  · rintro ⟨group, hgroup, hnode⟩
    rw [hready.node_group hnode]
    exact ⟨hgroup, hnode⟩
  · exact fun hnode => ⟨node.group, hnode⟩

/-- After a pass a node is as its group has left it. -/
theorem Ready.mem_frameAfter_iff (hready : Ready prepared pass frame) :
    node ∈ frameAfter prepared pass frame ↔
      node ∈ (groupOutcome prepared pass frame node.group).nodes := by
  rw [frameAfter, mem_mergeNodes_append_iff hready.names hready.nodup_passNodes,
    hready.mem_passNodes_iff]
  by_cases hgroup : node.group ∈ passGroups prepared pass
  · constructor
    · rintro (⟨-, hnode⟩ | ⟨hframe, hunnamed⟩)
      · exact hnode
      · have hvacant : node.vacated ∈
            (groupOutcome prepared pass frame node.group).nodes.map
              Node.vacated := by
          rw [(hready.settles node.group).frame]
          exact List.mem_map_of_mem
            (mem_nodes_groupPartition_iff.mpr ⟨hframe, rfl⟩)
        obtain ⟨other, hother, hsame⟩ := List.mem_map.mp hvacant
        have hpassed : other ∈ passNodes prepared pass frame := by
          rw [hready.mem_passNodes_iff, Node.group_eq_of_vacated hsame]
          exact ⟨hgroup, hother⟩
        exact absurd
          (Node.name_eq_of_vacated hsame ▸ List.mem_map_of_mem hpassed) hunnamed
    · exact fun hnode => Or.inl ⟨hgroup, hnode⟩
  · rw [hready.groupOutcome_of_idle hgroup, mem_nodes_groupPartition_iff]
    constructor
    · rintro (hnode | hnode)
      · exact absurd hnode.1 hgroup
      · exact ⟨hnode.1, rfl⟩
    · rintro ⟨hframe, -⟩
      refine Or.inr ⟨hframe, fun hnamed => hgroup ?_⟩
      obtain ⟨other, hother, hname⟩ := List.mem_map.mp hnamed
      obtain ⟨hotherGroup, hotherNode⟩ := hready.mem_passNodes_iff.mp hother
      obtain ⟨before, hbefore, hbeforeGroup, hsame⟩ :=
        hready.exists_before hotherNode
      rw [← hready.node_unique hbefore hframe
          ((Node.name_eq_of_vacated hsame).trans hname), hbeforeGroup]
      exact hotherGroup

/-- A pass changes the nodes in their occupants only. -/
theorem Ready.vacated_frameAfter (hready : Ready prepared pass frame) :
    (frameAfter prepared pass frame).map Node.vacated =
      frame.map Node.vacated := by
  have hafter : ((frameAfter prepared pass frame).map Node.vacated).Pairwise
      fun left right => compare left.name right.name = .lt :=
    List.pairwise_map.mpr (mergeNodes_ordered _)
  have hbefore : (frame.map Node.vacated).Pairwise
      fun left right => compare left.name right.name = .lt :=
    List.pairwise_map.mpr hready.ordered
  apply OrderedMap.eq_of_ordered_of_mem_iff hafter hbefore
  intro vacant
  rw [List.mem_map, List.mem_map]
  constructor
  · rintro ⟨node, hnode, rfl⟩
    obtain ⟨before, hbefore, -, hsame⟩ :=
      hready.exists_before (hready.mem_frameAfter_iff.mp hnode)
    exact ⟨before, hbefore, hsame⟩
  · rintro ⟨before, hbefore, rfl⟩
    have hvacant := ((hready.settles before.group).frame before.vacated).mpr
      (List.mem_map_of_mem (mem_nodes_groupPartition_iff.mpr ⟨hbefore, rfl⟩))
    obtain ⟨node, hnode, hsame⟩ := List.mem_map.mp hvacant
    refine ⟨node, ?_, hsame⟩
    rwa [hready.mem_frameAfter_iff, Node.group_eq_of_vacated hsame]

/-- A task that holds a node of another group held it before. -/
theorem Ready.working_of_holding (hready : Ready prepared pass frame)
    {row : Task} (hrow : row ∈ passRows prepared pass frame)
    (hholding : row.isHolding) {before : Node} (hbefore : before ∈ frame)
    (hlisted : before.name ∈ row.assignedNodes)
    (hgroup : row.group ≠ before.group) : before.working = some row.id := by
  obtain ⟨task, htask, hruling⟩ := hready.ruled hrow
  rcases hruling.kept_or_started hholding with
    ⟨hscheduled, hrunning, rfl⟩ | ⟨chosen, -, -, -, -, hchosen, rfl⟩
  · exact (hready.undisputed task htask hscheduled hrunning before hbefore
      hlisted).1
  · obtain ⟨node, hnode, hname⟩ := hchosen before.name hlisted
    obtain ⟨hframe, hnodeGroup⟩ := mem_nodes_groupPartition_iff.mp hnode
    rw [hready.node_unique hframe hbefore hname] at hnodeGroup
    exact absurd hnodeGroup.symm hgroup

/-- After a pass a node is occupied as the rows say, or as before by a task that
its group has not decided on. -/
theorem Ready.working_frameAfter_iff (hready : Ready prepared pass frame)
    (hnode : node ∈ frameAfter prepared pass frame) {id : TaskId} :
    node.working = some id ↔
      (∃ row ∈ passRows prepared pass frame, row.id = id ∧ row.isHolding ∧
          node.name ∈ row.assignedNodes) ∨
        (∀ row ∈ passRows prepared pass frame, row.id = id →
            row.group ≠ node.group) ∧
          ∃ before ∈ frame, before.name = node.name ∧
            before.working = some id := by
  have hlocal := hready.mem_frameAfter_iff.mp hnode
  rw [(hready.settles node.group).occupied node hlocal,
    ← (hready.settles node.group).ids.mem_iff]
  obtain ⟨before, hbefore, hgroup, hsame⟩ := hready.exists_before hlocal
  have hname : before.name = node.name := Node.name_eq_of_vacated hsame
  constructor
  · rintro (⟨row, hrow, hheld⟩ | ⟨hundecided, other, hother, hotherHeld⟩)
    · refine Or.inl ⟨row, ?_, hheld⟩
      rwa [hready.mem_passRows_iff, hready.group_of_mem hrow]
    · refine Or.inr
        ⟨?_, other, (mem_nodes_groupPartition_iff.mp hother).1, hotherHeld⟩
      rintro row hrow rfl hrowGroup
      rw [hready.mem_passRows_iff, hrowGroup] at hrow
      exact hundecided (List.mem_map_of_mem hrow)
  · have hundecided :
        (∀ row ∈ passRows prepared pass frame, row.id = id →
            row.group ≠ node.group) →
          id ∉
            (groupOutcome prepared pass frame node.group).tasks.map
              Task.id := by
      intro helsewhere hid
      obtain ⟨row, hrow, hrowId⟩ := List.mem_map.mp hid
      have hrowGroup := hready.group_of_mem hrow
      refine helsewhere row ?_ hrowId hrowGroup
      rwa [hready.mem_passRows_iff, hrowGroup]
    rintro (⟨row, hrow, rfl, hholding, hlisted⟩ | ⟨helsewhere, other, hother,
      hotherName, hheld⟩)
    · by_cases hrowGroup : row.group = node.group
      · refine Or.inl ⟨row, ?_, rfl, hholding, hlisted⟩
        rwa [← hrowGroup, ← hready.mem_passRows_iff]
      · -- The row of another group lists the node, so its task held it before
        -- and keeps it.
        refine Or.inr ⟨hundecided ?_, before,
          mem_nodes_groupPartition_iff.mpr ⟨hbefore, hgroup⟩, hname, ?_⟩
        · intro other hother hid
          rwa [List.inj_on_of_nodup_map hready.nodup_passRows hother hrow hid]
        · rw [← hname] at hlisted
          rw [← hgroup] at hrowGroup
          exact hready.working_of_holding hrow hholding hbefore hlisted
            hrowGroup
    · rw [hready.node_unique hother hbefore
        (hotherName.trans hname.symm)] at hheld
      exact Or.inr ⟨hundecided helsewhere, before,
        mem_nodes_groupPartition_iff.mpr ⟨hbefore, hgroup⟩, hname, hheld⟩

end Nodes

end Tick

end ClusterTick
