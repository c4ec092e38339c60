import ClusterTick.Fixture.Scenario
import ClusterTick.Proofs.Match.Reach
import ClusterTick.Proofs.Tick.Assembly

/-!
# Who waits at the end of a tick

An admitted training task that has been left waiting could not be placed when
the tick is over either: the nodes of its group that are free, together with
those of running tasks below it, are fewer than it asks for.
-/

namespace ClusterTick

namespace Assignment

/-- The ready nodes of a group that nobody occupies. -/
def freeIn (assignment : Assignment) (group : GroupName) : List Node :=
  assignment.nodes.filter fun node =>
    node.group = group && node.isReady && node.isFree

/-- The ready nodes in the group of a task that running training tasks of the
group below it occupy. -/
def heldBelow (assignment : Assignment) (users : OrderedMap UserName UserView)
    (task : Task) : List Node :=
  assignment.nodes.filter fun node =>
    node.group = task.group && node.isReady &&
      assignment.tasks.any fun row =>
        node.working = some row.id && row.processResult = .keepRunning &&
          !row.isValidation && row.group = task.group &&
          WorkingSet.effectivePriority users row <
            WorkingSet.effectivePriority users task

/-- How many nodes a task could still get. -/
def withinReach (assignment : Assignment) (users : OrderedMap UserName UserView)
    (task : Task) : Nat :=
  (assignment.freeIn task.group).length +
    if assignment.valid then (assignment.heldBelow users task).length else 0

theorem mem_freeIn_iff {assignment : Assignment} {group : GroupName}
    {node : Node} :
    node ∈ assignment.freeIn group ↔
      node ∈ assignment.nodes ∧ node.group = group ∧ node.isReady ∧
        node.working = none := by
  simp [freeIn, Node.isFree, and_assoc]

theorem mem_heldBelow_iff {assignment : Assignment}
    {users : OrderedMap UserName UserView} {task : Task} {node : Node} :
    node ∈ assignment.heldBelow users task ↔
      node ∈ assignment.nodes ∧ node.group = task.group ∧ node.isReady ∧
        ∃ row ∈ assignment.tasks, node.working = some row.id ∧
          row.processResult = .keepRunning ∧ row.isValidation = false ∧
          row.group = task.group ∧
          WorkingSet.effectivePriority users row <
            WorkingSet.effectivePriority users task := by
  simp [heldBelow, and_assoc]

/-- The nodes that a task could still get are distinct. -/
theorem nodup_freeIn_append_heldBelow {assignment : Assignment}
    (users : OrderedMap UserName UserView) (task : Task)
    (hnames : (assignment.nodes.map Node.name).Nodup) :
    ((assignment.freeIn task.group ++ assignment.heldBelow users task).map
      Node.name).Nodup := by
  rw [List.map_append, List.nodup_append']
  refine ⟨hnames.sublist (List.filter_sublist.map _),
    hnames.sublist (List.filter_sublist.map _), ?_⟩
  intro name hleft hright
  obtain ⟨free, hfree, rfl⟩ := List.mem_map.mp hleft
  obtain ⟨held, hheld, hname⟩ := List.mem_map.mp hright
  obtain ⟨hfreeMem, -, -, hnone⟩ := mem_freeIn_iff.mp hfree
  obtain ⟨hheldMem, -, -, row, -, hworking, -⟩ := mem_heldBelow_iff.mp hheld
  rw [List.inj_on_of_nodup_map hnames hheldMem hfreeMem hname,
    hnone] at hworking
  cases hworking

end Assignment

namespace Tick

section Group

/-! ## The end of a group's walk -/

variable {prepared : Prepared} {pass : MatchPass} {frame : List Node}

/-- The state of a group at the end of a pass. -/
def finalState (prepared : Prepared) (pass : MatchPass) (frame : List Node)
    (group : GroupName) : MatchState :=
  (groupPartition prepared pass frame group).walk pass
    ((groupPartition prepared pass frame group).agenda pass)

theorem groupOutcome_eq (group : GroupName) :
    groupOutcome prepared pass frame group =
      (finalState prepared pass frame group).outcome :=
  Partition.run_eq _ pass

theorem Ready.tracks (hready : Ready prepared pass frame) (group : GroupName) :
    (groupPartition prepared pass frame group).Tracks
      ((groupPartition prepared pass frame group).agenda pass)
      (finalState prepared pass frame group) :=
  (Partition.tracks_walk (hready.sound group)
    (Partition.agenda_perm _ pass).subset (hready.sound group).nodup_agenda).1

theorem Ready.stands (hready : Ready prepared pass frame) (group : GroupName) :
    (groupPartition prepared pass frame group).Stands pass
      ((groupPartition prepared pass frame group).agenda pass)
      (finalState prepared pass frame group) :=
  Partition.stands_walk (hready.sound group)
    (Partition.agenda_perm _ pass).subset (hready.sound group).nodup_agenda
    (Partition.agenda_ordered _ pass)

theorem exists_place_of_mem {group : GroupName} {node : Node}
    (hnode : node ∈ (groupOutcome prepared pass frame group).nodes) :
    ∃ place ∈ (finalState prepared pass frame group).pool,
      place.node = node := by
  rw [groupOutcome_eq] at hnode
  exact List.mem_map.mp hnode

theorem mem_decisions_iff {group : GroupName} {row : Task} :
    row ∈ (finalState prepared pass frame group).decisions ↔
      row ∈ (groupOutcome prepared pass frame group).tasks := by
  rw [groupOutcome_eq]
  exact Iff.rfl

theorem exists_task_of_mem_agenda {group : GroupName} {candidate : Candidate}
    (hcandidate : candidate ∈
      (groupPartition prepared pass frame group).agenda pass) :
    ∃ task ∈ matchable prepared.workingSet pass,
      candidateOf prepared task = candidate := by
  obtain ⟨task, htask, -, heq⟩ :=
    mem_decided_groupPartition_iff.mp
      ((Partition.agenda_perm _ pass).subset hcandidate)
  exact ⟨task, htask, heq⟩

/-- A free node is within reach. -/
theorem Ready.mem_reachable_of_free (hready : Ready prepared pass frame)
    {group : GroupName} {node : Node}
    (hnode : node ∈ (groupOutcome prepared pass frame group).nodes)
    (hnodeReady : node.isReady) (hfree : node.working = none) (preempts : Bool)
    (priority : Int32) :
    node.name ∈
      (finalState prepared pass frame group).reachable preempts priority := by
  obtain ⟨place, hplace, rfl⟩ := exists_place_of_mem hnode
  refine MatchState.mem_reachable_iff.mpr (Or.inl ?_)
  rw [MatchState.mem_freeNodes_iff (hready.tracks group).coherent]
  exact ⟨place, hplace, rfl, hfree, hnodeReady⟩

/-- So is a node that a running task below the priority occupies, if there may
be preemption. -/
theorem Ready.mem_reachable_of_kept (hready : Ready prepared .training frame)
    {group : GroupName} {node : Node}
    (hnode : node ∈ (groupOutcome prepared .training frame group).nodes)
    (hnodeReady : node.isReady) {row : Task}
    (hrow : row ∈ (groupOutcome prepared .training frame group).tasks)
    (hkept : row.processResult = .keepRunning)
    (hworking : node.working = some row.id) {priority : Int32}
    (hbelow : ∀ task ∈ matchable prepared.workingSet .training,
      row.request = task.task.request → task.effectivePriority < priority) :
    node.name ∈
      (finalState prepared .training frame group).reachable true priority := by
  obtain ⟨candidate, hcandidate, hrequest, hholder⟩ :=
    (hready.stands group).kept rfl row (mem_decisions_iff.mpr hrow) hkept
  obtain ⟨task, htask, rfl⟩ := exists_task_of_mem_agenda hcandidate
  obtain ⟨place, hplace, rfl⟩ := exists_place_of_mem hnode
  refine MatchState.mem_reachable_iff.mpr (Or.inr ⟨_,
    MatchState.mem_yielding_iff.mpr ⟨rfl, hholder, hbelow task htask hrequest⟩,
    ?_⟩)
  rw [(hready.tracks group).mem_usableNames_iff
      (hready.sound group).nodup_agenda hholder, MatchState.isReadyName_iff]
  exact ⟨⟨place, hplace, rfl,
      hworking.trans (congrArg some (Task.id_eq_of_request hrequest))⟩, place,
    hplace, rfl, hnodeReady⟩

end Group

section Schedule

variable (snapshot : Snapshot) (config : EngineConfig) (decidedAt : Instant)

/-- A row of a training task is one of its group's training pass. -/
theorem mem_trainingRows_of_mem {prepared : Prepared}
    (hready : AllReady prepared) {row : Task} (hrow : row ∈ tickRows prepared)
    (htraining : row.isValidation = false) :
    row ∈
      (groupOutcome prepared .training (trainingFrame prepared)
        row.group).tasks := by
  rcases List.mem_append.mp hrow with hvalidated | htrained
  · obtain ⟨task, htask, hruling⟩ := (hready .validation).ruled hvalidated
    have hvalidation : task.task.isValidation :=
      (mem_matchable_iff.mp htask).2.1
    have hsame : row.isValidation = task.task.isValidation :=
      Task.isValidation_eq_of_request hruling.request_eq
    rw [hsame, hvalidation] at htraining
    cases htraining
  · exact hready.training.mem_passRows_iff.mp htrained

private theorem nodup_schedule_nodes :
    ((schedule snapshot config decidedAt).assignment.nodes.map
      Node.name).Nodup := by
  rw [schedule_nodes]
  exact OrderedMap.nodup_map_of_ordered (mergeNodes_ordered _)

/-- A node of an assignment is as its group has left it. -/
theorem mem_groupOutcome_of_mem {node : Node}
    (hnode : node ∈ (schedule snapshot config decidedAt).assignment.nodes) :
    node ∈ (groupOutcome (prepare snapshot config) .training
      (trainingFrame (prepare snapshot config)) node.group).nodes := by
  rw [schedule_nodes] at hnode
  exact (allReady_prepare snapshot config).training.mem_frameAfter_iff.mp hnode

private theorem freeIn_subset_reachable (group : GroupName) (preempts : Bool)
    (priority : Int32) :
    ((schedule snapshot config decidedAt).assignment.freeIn group).map
        Node.name ⊆
      (finalState (prepare snapshot config) .training
          (trainingFrame (prepare snapshot config)) group).reachable preempts
        priority := by
  intro name hname
  obtain ⟨node, hnode, rfl⟩ := List.mem_map.mp hname
  obtain ⟨hmem, rfl, hnodeReady, hfree⟩ := Assignment.mem_freeIn_iff.mp hnode
  exact (allReady_prepare snapshot config).training.mem_reachable_of_free
    (mem_groupOutcome_of_mem snapshot config decidedAt hmem) hnodeReady hfree
    preempts priority

private theorem heldBelow_subset_reachable (waiter : Task) :
    ((schedule snapshot config decidedAt).assignment.heldBelow
          (workingSet snapshot config).users waiter).map Node.name ⊆
      (finalState (prepare snapshot config) .training
          (trainingFrame (prepare snapshot config)) waiter.group).reachable true
        (WorkingSet.effectivePriority (workingSet snapshot config).users
          waiter) := by
  have hready := allReady_prepare snapshot config
  intro name hname
  obtain ⟨node, hnode, rfl⟩ := List.mem_map.mp hname
  obtain ⟨hmem, hgroup, hnodeReady, row, hrow, hworking, hkept, htraining,
      hrowGroup, hbelow⟩ :=
    Assignment.mem_heldBelow_iff.mp hnode
  rw [schedule_tasks] at hrow
  have hrowOutcome := mem_trainingRows_of_mem hready hrow htraining
  have hnodeOutcome := mem_groupOutcome_of_mem snapshot config decidedAt hmem
  rw [hrowGroup] at hrowOutcome
  rw [hgroup] at hnodeOutcome
  apply hready.training.mem_reachable_of_kept hnodeOutcome hnodeReady
    hrowOutcome hkept hworking
  intro task htask hrequest
  rwa [← effectivePriority_of_request snapshot config
    (mem_matchable_iff.mp htask).1 hrequest]

/-- What a task could still get after a tick was within its reach at the end of
the training pass. -/
theorem withinReach_schedule_le (waiter : Task) :
    (schedule snapshot config decidedAt).assignment.withinReach
        (workingSet snapshot config).users waiter ≤
      ((finalState (prepare snapshot config) .training
          (trainingFrame (prepare snapshot config)) waiter.group).reachable
        (MatchPass.preempts .training (workingSet snapshot config).valid)
        (WorkingSet.effectivePriority (workingSet snapshot config).users
          waiter)).length := by
  have hdistinct :=
    Assignment.nodup_freeIn_append_heldBelow (workingSet snapshot config).users
      waiter (nodup_schedule_nodes snapshot config decidedAt)
  have hfree := freeIn_subset_reachable snapshot config decidedAt waiter.group
    (MatchPass.preempts .training (workingSet snapshot config).valid)
    (WorkingSet.effectivePriority (workingSet snapshot config).users waiter)
  have hsame : (schedule snapshot config decidedAt).assignment.valid =
      (workingSet snapshot config).valid := rfl
  rw [List.map_append, List.nodup_append'] at hdistinct
  rw [Assignment.withinReach, hsame]
  cases hvalid : (workingSet snapshot config).valid with
  | false =>
    rw [hvalid] at hfree
    simpa using (List.subperm_of_subset hdistinct.1 hfree).length_le
  | true =>
    have hheld := heldBelow_subset_reachable snapshot config decidedAt waiter
    rw [hvalid] at hfree
    have hboth := List.subperm_of_subset (List.nodup_append'.mpr hdistinct)
      (List.append_subset.mpr ⟨hfree, hheld⟩)
    simpa using hboth.length_le

/-- No admitted training task waits for nodes that it could still get. -/
theorem withinReach_schedule_lt :
    ∀ waiter ∈ (schedule snapshot config decidedAt).assignment.tasks,
      waiter.isValidation = false → waiter.isWaiting →
        (schedule snapshot config decidedAt).assignment.withinReach
          (workingSet snapshot config).users waiter < waiter.nodes.toNat := by
  intro waiter hwaiter htraining hwaiting
  have hready := allReady_prepare snapshot config
  rw [schedule_tasks] at hwaiter
  obtain ⟨candidate, hcandidate, hrequest, -, -, hshort⟩ :=
    (hready.training.stands waiter.group).waiting waiter
      (mem_decisions_iff.mpr (mem_trainingRows_of_mem hready hwaiter htraining))
      hwaiting
  obtain ⟨task, htask, rfl⟩ := exists_task_of_mem_agenda hcandidate
  have hpriority :
      WorkingSet.effectivePriority (workingSet snapshot config).users waiter =
        task.effectivePriority :=
    effectivePriority_of_request snapshot config (mem_matchable_iff.mp htask).1
      hrequest
  have hreach := withinReach_schedule_le snapshot config decidedAt waiter
  rw [hpriority] at hreach
  calc
    _ ≤ _ := hreach
    _ < task.task.nodes.toNat := hshort
    _ = waiter.nodes.toNat :=
      congrArg UInt32.toNat (Task.nodes_eq_of_request hrequest).symm

/-- One node, which a task holds that is as urgent as the one that waits for
it. -/
def sharedUrgency : Snapshot :=
  { group := ⟨"train"⟩ : Scenario }
    |>.addReadyNode ⟨"n1"⟩ "room"
    |>.addQuotaHolder ⟨"alice"⟩ 1
    |>.addQuotaHolder ⟨"bob"⟩ 1
    |>.addScheduled ⟨1⟩ ⟨"alice"⟩ 30 [⟨"n1"⟩]
    |>.addQueued ⟨2⟩ ⟨"bob"⟩ 30 1
    |>.snapshot default

/-- Nothing is within reach of the second task, so it waits. -/
theorem withinReach_schedule_sharedUrgency :
    ∃ waiter ∈ (schedule sharedUrgency {} default).assignment.tasks,
      waiter.isValidation = false ∧ waiter.isWaiting ∧
        (schedule sharedUrgency {} default).assignment.withinReach
          (workingSet sharedUrgency {}).users waiter < waiter.nodes.toNat := by
  obtain ⟨waiter, hmem, htraining, hwaiting⟩ :
      ∃ waiter ∈ (schedule sharedUrgency {} default).assignment.tasks,
        waiter.isValidation = false ∧ waiter.isWaiting := by
    decide +kernel
  exact ⟨waiter, hmem, htraining, hwaiting,
    withinReach_schedule_lt sharedUrgency {} default waiter hmem htraining
      hwaiting⟩

end Schedule

end Tick

end ClusterTick
