import ClusterTick.Proofs.Tick.Replay

/-!
# Placements are complete

A task starts on as many nodes as it asks for, all of them ready and of its
group, or not at all.  Enacting a tick writes these nodes on the task, leaves
the nodes of a task that keeps running, and clears those of a suspended one.  So
the scheduled tasks go on listing as many nodes as they ask for, however many
ticks are enacted.
-/

namespace ClusterTick

/-- A row that places a task on ready nodes of its group, as many as it asks
for. -/
structure Task.IsPlacementOf (row task : Task) (nodes : List Node) : Prop where
  request : row.request = task.request
  needs : 1 ≤ row.nodes.toNat
  complete : row.assignedNodes.length = row.nodes.toNat
  distinct : row.assignedNodes.Nodup
  ready : ∀ name ∈ row.assignedNodes, ∃ node ∈ nodes,
    node.name = name ∧ node.isReady ∧ node.group = task.group

/-- Whether every scheduled task lists as many nodes as it asks for. -/
def Snapshot.IsComplete (snapshot : Snapshot) : Prop :=
  ∀ task ∈ snapshot.tasks, task.isScheduled →
    task.assignedNodes.length = task.nodes.toNat

instance (snapshot : Snapshot) : Decidable snapshot.IsComplete :=
  inferInstanceAs (Decidable (∀ task ∈ snapshot.tasks, _))

/-- A row that holds nodes lists as many as its task asks for, if the task did
before. -/
theorem Ruling.length_of_holding {partition : Partition} {pass : MatchPass}
    {rows : List Task} {candidate : Candidate} {row : Task}
    (hruling : Ruling partition pass rows candidate row)
    (hholding : row.isHolding)
    (hcomplete : candidate.task.isScheduled →
      candidate.task.assignedNodes.length = candidate.task.nodes.toNat) :
    row.assignedNodes.length = candidate.task.nodes.toNat := by
  rcases hruling.kept_or_started hholding with
    ⟨hscheduled, -, rfl⟩ | ⟨_, -, -, hlength, -, -, rfl⟩
  · exact hcomplete hscheduled
  · exact hlength

namespace Tick

section Start

variable (snapshot : Snapshot) (config : EngineConfig) (decidedAt : Instant)

/-- A task that is admitted asks for nodes. -/
theorem nodes_ne_zero_of_admission {task : PreparedTask}
    (htask : task ∈ (workingSet snapshot config).tasks)
    (hadmission : (candidateOf (prepare snapshot config) task).admission =
      .approved) :
    task.task.nodes ≠ 0 := by
  have hwaiting :
      (mayStart (workingSet snapshot config)).check task.id = .approved :=
    (Check.andThen_eq_approved_iff.mp hadmission).1
  obtain ⟨other, hother, hid, -, -, -, hnodes, -⟩ :=
    mayStart_eq_approved hwaiting
  rwa [List.inj_on_of_nodup_map (consistent_workingSet snapshot config).taskIds
    hother htask hid] at hnodes

/-- A node of a frame is one of the active nodes of the snapshot. -/
theorem exists_activeNode {frame : List Node}
    (hsame : frame.map Node.vacated =
      (workingSet snapshot config).nodes.map Node.vacated)
    {node : Node} (hnode : node ∈ frame) :
    ∃ reported ∈ WorkingSet.activeNodes snapshot config.defaultGroup,
      reported.vacated = node.vacated :=
  exists_vacated_of_mem
    (hsame.trans
      (WorkingSet.vacated_ofSnapshot_nodes snapshot config.defaultGroup))
    hnode

theorem isPlacementOf_of_startup {row : Task}
    (hrow : row ∈ (schedule snapshot config decidedAt).assignment.tasks)
    (hstartup : row.processResult = .startup) :
    ∃ task ∈ WorkingSet.distinctTasks snapshot config.defaultGroup,
      row.IsPlacementOf task
        (WorkingSet.activeNodes snapshot config.defaultGroup) := by
  rw [schedule_tasks] at hrow
  obtain ⟨pass, frame, -, hsame, task, hmatched, hruling⟩ :=
    (allReady_prepare snapshot config).ruled hrow
  have htask := (mem_matchable_iff.mp hmatched).1
  have hnodes : row.nodes = task.task.nodes :=
    Task.nodes_eq_of_request hruling.request_eq
  obtain ⟨hadmission, hlength, hdistinct, hready⟩ := hruling.of_startup hstartup
  refine ⟨task.task,
    WorkingSet.mem_ofSnapshot_tasks snapshot config.defaultGroup htask,
    hruling.request_eq, ?_, ?_, hdistinct, ?_⟩
  · have hneeds := nodes_ne_zero_of_admission snapshot config htask hadmission
    rw [hnodes, Nat.one_le_iff_ne_zero]
    exact fun hzero => hneeds (UInt32.toNat_inj.mp hzero)
  · rw [hnodes]
    exact hlength
  · intro name hname
    obtain ⟨node, hnode, rfl, hnodeReady⟩ := hready name hname
    obtain ⟨hframe, hgroup⟩ := mem_nodes_groupPartition_iff.mp hnode
    obtain ⟨reported, hreported, hvacated⟩ :=
      exists_activeNode snapshot config hsame hframe
    refine ⟨reported, hreported, Node.name_eq_of_vacated hvacated, ?_, ?_⟩
    · rwa [Node.isReady_eq_of_vacated hvacated]
    · rwa [Node.group_eq_of_vacated hvacated]

end Start

section Ticks

/-- The snapshots that enacted ticks lead to, each under settings and at a time
of its own. -/
inductive Reaches (start : Snapshot) : Snapshot → Prop
  | start : Reaches start start
  | tick {snapshot : Snapshot} (config : EngineConfig) (decidedAt : Instant)
      (hreaches : Reaches start snapshot) :
      Reaches start (following snapshot config decidedAt)

variable {snapshot : Snapshot} {config : EngineConfig} {decidedAt : Instant}

/-- One enacted tick leaves the scheduled tasks complete. -/
theorem isComplete_following (hids : (snapshot.tasks.map Task.id).Nodup)
    (hcomplete : snapshot.IsComplete) :
    (following snapshot config decidedAt).IsComplete := by
  intro changed hchanged hscheduled
  rw [(relates_following snapshot config decidedAt).tasks] at hchanged
  obtain ⟨task, htask, rfl⟩ := List.mem_map.mp hchanged
  obtain ⟨prepared, hprepared, hsame⟩ :=
    (exists_row_task_iff snapshot config hids).mp ⟨task, htask, rfl⟩
  have hbefore : prepared.task.isScheduled →
      prepared.task.assignedNodes.length = prepared.task.nodes.toNat := by
    rw [hsame]
    exact hcomplete task htask
  obtain ⟨row, hrow, hid, hholding⟩ :=
    (isScheduled_change_raw_iff snapshot config decidedAt hprepared
        hsame.symm).mp hscheduled
  obtain ⟨_, _, -, -, -, hruling⟩ :=
    (allReady_prepare snapshot config).ruling_of_id hprepared hrow hid
  calc
    ((revision snapshot config decidedAt).change task).assignedNodes.length =
        row.assignedNodes.length := by
      rw [assignedNodes_change_raw snapshot config decidedAt hprepared
        hsame.symm hrow hid hholding]
    _ = prepared.task.nodes.toNat := hruling.length_of_holding hholding hbefore
    _ = task.nodes.toNat := by
      rw [hsame]
      rfl
    _ = ((revision snapshot config decidedAt).change task).nodes.toNat := by
      rw [Task.nodes_eq_of_plan
        ((revision snapshot config decidedAt).plan task)]

/-- So do any number of enacted ticks. -/
theorem Reaches.isComplete {later : Snapshot}
    (hreaches : Reaches snapshot later)
    (hids : (snapshot.tasks.map Task.id).Nodup)
    (hcomplete : snapshot.IsComplete) :
    (later.tasks.map Task.id).Nodup ∧ later.IsComplete := by
  induction hreaches with
  | start => exact ⟨hids, hcomplete⟩
  | tick config decidedAt _ ih =>
    refine ⟨?_, isComplete_following ih.1 ih.2⟩
    rw [ids_following]
    exact ih.1

end Ticks

/-- Every start is on as many ready nodes of the group as the task asks for, and
ticks keep the placements complete. -/
theorem placements_complete (snapshot : Snapshot) (config : EngineConfig)
    (decidedAt : Instant) :
    (∀ row ∈ (schedule snapshot config decidedAt).assignment.tasks,
        row.processResult = .startup →
        ∃ task ∈ WorkingSet.distinctTasks snapshot config.defaultGroup,
          row.IsPlacementOf task
            (WorkingSet.activeNodes snapshot config.defaultGroup)) ∧
      ((snapshot.tasks.map Task.id).Nodup → snapshot.IsComplete → ∀ later,
        Reaches snapshot later → later.IsComplete) :=
  ⟨fun _ => isPlacementOf_of_startup snapshot config decidedAt,
    fun hids hcomplete _ hreaches => (hreaches.isComplete hids hcomplete).2⟩

/-- The urgent task starts on the one node, and lists it after the tick. -/
theorem placements_complete_urgentTask :
    (∃ row ∈ (schedule urgentTask {} default).assignment.tasks,
        row.processResult = .startup ∧
        ∃ task ∈ WorkingSet.distinctTasks urgentTask ⟨"default"⟩,
          row.IsPlacementOf task
            (WorkingSet.activeNodes urgentTask ⟨"default"⟩)) ∧
      (urgentTask.tasks.map Task.id).Nodup ∧ urgentTask.IsComplete ∧
      (∃ task ∈ (following urgentTask {} default).tasks, task.id = ⟨2⟩ ∧
        task.isScheduled) ∧
      ∀ later, Reaches urgentTask later → later.IsComplete := by
  obtain ⟨hstarts, hticks⟩ := placements_complete urgentTask {} default
  obtain ⟨row, hrow, hstartup⟩ :
      ∃ row ∈ (schedule urgentTask {} default).assignment.tasks,
        row.processResult = .startup := by
    decide +kernel
  exact ⟨⟨row, hrow, hstartup, hstarts row hrow hstartup⟩, by decide +kernel,
    by decide +kernel, by decide +kernel,
    hticks (by decide +kernel) (by decide +kernel)⟩

end Tick

end ClusterTick
