import ClusterTick.Fixture.Scenario
import ClusterTick.Proofs.Tick.Assembly

/-!
# Who holds a node

After a tick no node has two holders, and the occupant of a node is its holder.
The converse has one gap.  A node can carry the label of another group than the
task that holds it; if such a task is suspended, its group does not have the
node at hand, and the node stays occupied.
-/

namespace ClusterTick

namespace Assignment

/-- The rows that hold a node. -/
def holdersOf (assignment : Assignment) (name : NodeName) : List Task :=
  assignment.tasks.filter fun row =>
    row.isHolding && row.assignedNodes.contains name

/-- No node has two holders, and a holder lists the node once and occupies
it. -/
structure Exclusive (assignment : Assignment) : Prop where
  oneHolder :
    ∀ node ∈ assignment.nodes, (assignment.holdersOf node.name).length ≤ 1
  listedOnce : ∀ node ∈ assignment.nodes,
    ∀ row ∈ assignment.holdersOf node.name,
    row.assignedNodes.count node.name = 1
  occupied : ∀ node ∈ assignment.nodes, ∀ row ∈ assignment.holdersOf node.name,
    node.working = some row.id

/-- Every occupied node is held by its occupant, so no suspended task occupies
any. -/
structure OccupiedByHolders (assignment : Assignment) : Prop where
  held : ∀ node ∈ assignment.nodes, ∀ id, node.working = some id →
    ∃ row ∈ assignment.tasks, row.id = id ∧ row.isHolding ∧
      node.name ∈ row.assignedNodes
  vacated : ∀ row ∈ assignment.tasks, row.processResult = .suspend →
    ∀ node ∈ assignment.nodes, node.working ≠ some row.id

private theorem mem_holdersOf_iff {assignment : Assignment} {name : NodeName}
    {row : Task} :
    row ∈ assignment.holdersOf name ↔
      row ∈ assignment.tasks ∧ row.isHolding ∧ name ∈ row.assignedNodes := by
  simp [holdersOf]

end Assignment

theorem Ruling.listed_once {partition : Partition} {pass : MatchPass}
    {rows : List Task} {candidate : Candidate} {row : Task}
    (hruling : Ruling partition pass rows candidate row)
    (hholding : row.isHolding) {name : NodeName}
    (hlisted : name ∈ row.assignedNodes)
    (honce : candidate.task.isScheduled →
      candidate.verdict.running = .approved →
      name ∈ candidate.task.assignedNodes →
      candidate.task.assignedNodes.count name = 1) :
    row.assignedNodes.count name = 1 := by
  rcases hruling.kept_or_started hholding with
    ⟨hscheduled, hrunning, rfl⟩ | ⟨chosen, -, -, -, hdistinct, -, rfl⟩
  · exact honce hscheduled hrunning hlisted
  · exact List.count_eq_one_of_mem hdistinct hlisted

namespace Tick

section Rows

variable {prepared : Prepared}

theorem AllReady.listed_once (hready : AllReady prepared) {row : Task}
    (hrow : row ∈ tickRows prepared) (hholding : row.isHolding) {node : Node}
    (hnode : node ∈ prepared.workingSet.nodes)
    (hlisted : node.name ∈ row.assignedNodes) :
    row.assignedNodes.count node.name = 1 := by
  obtain ⟨pass, frame, hpass, hsame, task, htask, hruling⟩ := hready.ruled hrow
  obtain ⟨before, hbefore, hvacated⟩ := exists_vacated_of_mem hsame.symm hnode
  rw [← Node.name_eq_of_vacated hvacated] at hlisted ⊢
  apply hruling.listed_once hholding hlisted
  intro hscheduled hrunning htaskListed
  exact (hpass.undisputed task htask hscheduled hrunning before hbefore
    htaskListed).2

/-- A node has at most one holder. -/
theorem AllReady.holder_unique (hready : AllReady prepared) {left right : Task}
    (hleft : left ∈ tickRows prepared) (hright : right ∈ tickRows prepared)
    (hleftHolding : left.isHolding) (hrightHolding : right.isHolding)
    {before : Node} (hbefore : before ∈ prepared.workingSet.nodes)
    (hleftListed : before.name ∈ left.assignedNodes)
    (hrightListed : before.name ∈ right.assignedNodes) : left = right := by
  obtain ⟨node, hnode, hvacated⟩ :=
    exists_vacated_of_mem hready.vacated_tickFrame.symm hbefore
  rw [← Node.name_eq_of_vacated hvacated] at hleftListed hrightListed
  have hleftHeld : node.working = some left.id :=
    (hready.working_tickFrame_iff hnode).mpr
      (Or.inl ⟨left, hleft, rfl, hleftHolding, hleftListed⟩)
  have hrightHeld : node.working = some right.id :=
    (hready.working_tickFrame_iff hnode).mpr
      (Or.inl ⟨right, hright, rfl, hrightHolding, hrightListed⟩)
  exact hready.row_unique hleft hright
    (Option.some.inj (hleftHeld.symm.trans hrightHeld))

end Rows

section Schedule

variable (snapshot : Snapshot) (config : EngineConfig) (decidedAt : Instant)

/-- The row of a task that held a node before the tick. -/
theorem exists_row_of_occupant {before : Node}
    (hbefore : before ∈ (workingSet snapshot config).nodes) {id : TaskId}
    (hworking : before.working = some id) :
    ∃ row ∈ tickRows (prepare snapshot config), row.id = id ∧
      before.name ∈ row.assignedNodes ∧
      (row.isHolding ∨ row.processResult = .suspend) := by
  have hready := allReady_prepare snapshot config
  obtain ⟨holder, hholder, rfl, hscheduled, hlisted⟩ :=
    (consistent_workingSet snapshot config).occupant before hbefore id hworking
  have hmatched :
      holder.id ∈ (tickRows (prepare snapshot config)).map Task.id := by
    apply hready.ids_tickRows.mem_iff.mpr
    apply List.mem_map_of_mem
    exact List.mem_filter.mpr
      ⟨hholder, by simp [PreparedTask.isMatchable, hscheduled]⟩
  obtain ⟨row, hrow, hid⟩ := List.mem_map.mp hmatched
  obtain ⟨pass, frame, hpass, -, task, htask, hruling⟩ := hready.ruled hrow
  have hsame : task = holder := by
    apply List.inj_on_of_nodup_map hpass.taskIds (mem_matchable_iff.mp htask).1
      hholder
    exact hruling.id_eq.symm.trans hid
  rw [hsame] at hruling
  obtain ⟨hassigned, hdecided⟩ := hruling.of_scheduled hscheduled
  exact ⟨row, hrow, hid, hassigned ▸ hlisted, hdecided⟩

/-- Who occupies a node after a tick: its holder, or a suspended task of another
group that held it before. -/
theorem working_schedule_iff {node : Node}
    (hnode : node ∈ (schedule snapshot config decidedAt).assignment.nodes)
    {id : TaskId} :
    node.working = some id ↔
      (∃ row ∈ (schedule snapshot config decidedAt).assignment.tasks,
          row.id = id ∧ row.isHolding ∧ node.name ∈ row.assignedNodes) ∨
        ∃ row ∈ (schedule snapshot config decidedAt).assignment.tasks,
          row.id = id ∧ row.processResult = .suspend ∧ row.group ≠ node.group ∧
          ∃ before ∈ (workingSet snapshot config).nodes,
            before.name = node.name ∧ before.working = some id := by
  have hready := allReady_prepare snapshot config
  rw [schedule_nodes] at hnode
  rw [schedule_tasks, hready.working_tickFrame_iff hnode]
  constructor
  · rintro (hheld | ⟨helsewhere, before, hbefore, hname, hworking⟩)
    · exact Or.inl hheld
    · obtain ⟨row, hrow, hid, hlisted, hholding | hsuspended⟩ :=
        exists_row_of_occupant snapshot config hbefore hworking
      · exact Or.inl ⟨row, hrow, hid, hholding, hname ▸ hlisted⟩
      · exact Or.inr ⟨row, hrow, hid, hsuspended, helsewhere row hrow hid,
          before, hbefore, hname, hworking⟩
  · rintro (hheld | ⟨row, hrow, hid, -, hgroup, hbefore⟩)
    · exact Or.inl hheld
    · refine Or.inr ⟨?_, hbefore⟩
      intro other hother hotherId
      rwa [hready.row_unique hother hrow (hotherId.trans hid.symm)]

/-- The nodes of an assignment are the active ones, as their rows have them. -/
theorem vacated_schedule_nodes :
    (schedule snapshot config decidedAt).assignment.nodes.map Node.vacated =
      (WorkingSet.activeNodes snapshot config.defaultGroup).map
        Node.vacated := by
  rw [schedule_nodes, (allReady_prepare snapshot config).vacated_tickFrame]
  exact WorkingSet.vacated_ofSnapshot_nodes snapshot config.defaultGroup

/-- A node has the same group before and after a tick. -/
theorem group_eq_of_schedule_node {before node : Node}
    (hbefore : before ∈ (workingSet snapshot config).nodes)
    (hnode : node ∈ (schedule snapshot config decidedAt).assignment.nodes)
    (hname : before.name = node.name) : before.group = node.group := by
  rw [schedule_nodes] at hnode
  obtain ⟨other, hother, hvacated⟩ :=
    exists_vacated_of_mem (allReady_prepare snapshot config).vacated_tickFrame
      hnode
  have hsame : before = other :=
    (allReady_prepare snapshot config .training).node_unique hbefore hother
      (hname.trans (Node.name_eq_of_vacated hvacated).symm)
  rw [hsame]
  exact Node.group_eq_of_vacated hvacated

private theorem exists_schedule_node {before : Node}
    (hbefore : before ∈ (workingSet snapshot config).nodes) :
    ∃ node ∈ (schedule snapshot config decidedAt).assignment.nodes,
      node.name = before.name := by
  rw [schedule_nodes]
  obtain ⟨node, hnode, hvacated⟩ :=
    exists_vacated_of_mem
      (allReady_prepare snapshot config).vacated_tickFrame.symm hbefore
  exact ⟨node, hnode, Node.name_eq_of_vacated hvacated⟩

/-- Every active node has at most one holder, which lists it once and occupies
it. -/
theorem exclusive_schedule :
    (schedule snapshot config decidedAt).assignment.Exclusive ∧
      (schedule snapshot config decidedAt).assignment.nodes.map Node.name =
        (WorkingSet.activeNodes snapshot config.defaultGroup).map
          Node.name := by
  have hoccupied :
      ∀ node ∈ (schedule snapshot config decidedAt).assignment.nodes,
        ∀ row ∈ (schedule snapshot config decidedAt).assignment.holdersOf
          node.name,
        node.working = some row.id := by
    intro node hnode row hrow
    obtain ⟨hmem, hholding, hlisted⟩ := Assignment.mem_holdersOf_iff.mp hrow
    rw [working_schedule_iff snapshot config decidedAt hnode]
    exact Or.inl ⟨row, hmem, rfl, hholding, hlisted⟩
  refine ⟨⟨?_, ?_, hoccupied⟩, ?_⟩
  · intro node hnode
    have hdistinct :
        (((schedule snapshot config decidedAt).assignment.holdersOf
            node.name).map Task.id).Nodup :=
      (nodup_schedule_tasks snapshot config decidedAt).sublist
        (List.filter_sublist.map _)
    have hsame := hoccupied node hnode
    -- Two holders would both be the occupant.
    match hholders : (schedule snapshot config decidedAt).assignment.holdersOf
      node.name with
    | [] => simp
    | [_] => simp
    | first :: second :: rest =>
      rw [hholders] at hdistinct hsame
      have hids : some first.id = some second.id :=
        (hsame first (by simp)).symm.trans (hsame second (by simp))
      simp [Option.some.inj hids] at hdistinct
  · intro node hnode row hrow
    obtain ⟨hmem, hholding, hlisted⟩ := Assignment.mem_holdersOf_iff.mp hrow
    have hready := allReady_prepare snapshot config
    rw [schedule_tasks] at hmem
    rw [schedule_nodes] at hnode
    obtain ⟨before, hbefore, hvacated⟩ :=
      exists_vacated_of_mem hready.vacated_tickFrame hnode
    rw [← Node.name_eq_of_vacated hvacated] at hlisted ⊢
    exact hready.listed_once hmem hholding hbefore hlisted
  · have hnames :=
      congrArg (List.map Node.name)
        (vacated_schedule_nodes snapshot config decidedAt)
    rwa [List.map_map, List.map_map] at hnames

/-- The occupants of all nodes are their holders exactly if no suspended task
held a node of another group. -/
theorem occupiedByHolders_schedule_iff :
    (schedule snapshot config decidedAt).assignment.OccupiedByHolders ↔
      ∀ row ∈ (schedule snapshot config decidedAt).assignment.tasks,
        row.processResult = .suspend →
        ∀ node ∈ (workingSet snapshot config).nodes,
        node.working = some row.id → node.group = row.group := by
  constructor
  · intro hheld row hrow hsuspended before hbefore hworking
    by_contra hgroup
    obtain ⟨node, hnode, hname⟩ :=
      exists_schedule_node snapshot config decidedAt hbefore
    apply hheld.vacated row hrow hsuspended node hnode
    rw [working_schedule_iff snapshot config decidedAt hnode]
    refine Or.inr
      ⟨row, hrow, rfl, hsuspended, ?_, before, hbefore, hname.symm, hworking⟩
    rw [← group_eq_of_schedule_node snapshot config decidedAt hbefore hnode
      hname.symm]
    exact Ne.symm hgroup
  · intro hgroups
    have hheld : ∀ node ∈ (schedule snapshot config decidedAt).assignment.nodes,
        ∀ id, node.working = some id →
        ∃ row ∈ (schedule snapshot config decidedAt).assignment.tasks,
          row.id = id ∧ row.isHolding ∧ node.name ∈ row.assignedNodes := by
      intro node hnode id hworking
      rw [working_schedule_iff snapshot config decidedAt hnode] at hworking
      rcases hworking with
        hholder | ⟨row, hrow, rfl, hsuspended, hgroup, before, hbefore, hname,
          hoccupied⟩
      · exact hholder
      · have hlabel :=
          group_eq_of_schedule_node snapshot config decidedAt hbefore hnode
            hname
        have hbeforeGroup :=
          hgroups row hrow hsuspended before hbefore hoccupied
        exact absurd (hbeforeGroup.symm.trans hlabel) hgroup
    refine ⟨hheld, ?_⟩
    intro row hrow hsuspended node hnode hworking
    obtain ⟨other, hother, hid, hholding, -⟩ := hheld node hnode row.id hworking
    rw [schedule_row_unique snapshot config decidedAt hother hrow hid,
      Task.isHolding, hsuspended] at hholding
    cases hholding

/-- A node that has been given to another group while a task without quota holds
it. -/
def relabeledNode : Snapshot :=
  { group := ⟨"train"⟩ : Scenario }
    |>.addNode { Scenario.readyNode ⟨"infer"⟩ ⟨"n1"⟩ "room" with
                 originGroup := ⟨"train"⟩ }
    |>.addUser { userName := ⟨"alice"⟩ }
    |>.addScheduled ⟨1⟩ ⟨"alice"⟩ 0 [⟨"n1"⟩]
    |>.snapshot default

/-- The task is suspended, and the node stays occupied. -/
theorem not_occupiedByHolders_relabeledNode :
    ¬ (schedule relabeledNode {} default).assignment.OccupiedByHolders := by
  intro hheld
  have hvacated : ∀ row ∈ (schedule relabeledNode {} default).assignment.tasks,
      row.processResult = .suspend →
      ∀ node ∈ (schedule relabeledNode {} default).assignment.nodes,
      node.working ≠ some row.id :=
    hheld.vacated
  revert hvacated
  decide +kernel

end Schedule

end Tick

end ClusterTick
