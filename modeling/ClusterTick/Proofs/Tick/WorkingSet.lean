import ClusterTick.Proofs.Match.State
import ClusterTick.Proofs.Order.OrderedMap
import ClusterTick.Proofs.Tick.NodeClaims
import ClusterTick.Tick.Schedule

/-!
# Consistency of working sets

What a tick may rely on once a snapshot has been made consistent, whatever its
rows were.  `WorkingSet.Consistent` collects it; the results on matching use the
collection and not the construction of the working set.
-/

namespace ClusterTick.WorkingSet

/-- The rows of a working set fit together. -/
structure Consistent (set : WorkingSet) : Prop where
  /-- No task has two rows. -/
  taskIds : (set.tasks.map PreparedTask.id).Nodup
  /-- The nodes stand in the order of their names, each once. -/
  nodeOrder :
    set.nodes.Pairwise fun left right => compare left.name right.name = .lt
  /-- A task that holds a node is scheduled and lists the node. -/
  occupant : ∀ node ∈ set.nodes, ∀ id, node.working = some id →
    ∃ prepared ∈ set.tasks, prepared.id = id ∧ prepared.task.isScheduled ∧
      node.name ∈ prepared.task.assignedNodes
  /-- A scheduled task without a conflict holds every node that it lists, and
  lists it once. -/
  undisputed : ∀ prepared ∈ set.tasks, prepared.task.isScheduled →
    set.conflicts.get? prepared.id = none → ∀ node ∈ set.nodes,
    node.name ∈ prepared.task.assignedNodes →
    node.working = some prepared.id ∧
      prepared.task.assignedNodes.count node.name = 1
  /-- The priority that counts follows from the row and its user. -/
  priority : ∀ prepared ∈ set.tasks,
    prepared.effectivePriority = effectivePriority set.users prepared.task

/-- A task row with its derived columns. -/
def derive (users : OrderedMap UserName UserView) (tasks : List Task)
    (task : Task) : PreparedTask where
  task
  effectivePriority := effectivePriority users task
  isChainHead := isHeadAmong tasks task

/-- Where no task has two rows, all rows are kept. -/
theorem distinctTasks_of_nodup {snapshot : Snapshot}
    (hids : (snapshot.tasks.map Task.id).Nodup) (defaultGroup : GroupName) :
    distinctTasks snapshot defaultGroup =
      snapshot.tasks.map (normalizeTask defaultGroup) := by
  rw [distinctTasks, keepFirst_of_nodup hids]

variable (snapshot : Snapshot) (defaultGroup : GroupName)

theorem nodup_distinctTasks :
    ((distinctTasks snapshot defaultGroup).map Task.id).Nodup := by
  have hsame : Task.id ∘ normalizeTask defaultGroup = Task.id := rfl
  rw [distinctTasks, List.map_map, hsame]
  exact nodup_map_keepFirst snapshot.tasks

theorem activeNodes_ordered : (activeNodes snapshot defaultGroup).Pairwise
    fun left right => compare left.name right.name = .lt :=
  OrderedMap.lastRows_ordered

theorem mem_ofSnapshot_tasks {prepared : PreparedTask}
    (hmem : prepared ∈ (ofSnapshot snapshot defaultGroup).tasks) :
    prepared.task ∈ distinctTasks snapshot defaultGroup := by
  obtain ⟨task, htask, rfl⟩ := List.mem_map.mp hmem
  exact htask

/-- The occupancy of a working set is what its tasks leave when all have made
their claims. -/
theorem claims_eq_outcome :
    NodeClaims.ofTasks (activeNodes snapshot defaultGroup)
        (distinctTasks snapshot defaultGroup) =
      NodeClaims.outcome (activeNodes snapshot defaultGroup)
        (distinctTasks snapshot defaultGroup) :=
  NodeClaims.ofTasks_eq (nodup_distinctTasks snapshot defaultGroup)

/-- Each node belongs to the first scheduled task that lists it. -/
theorem nodes_ofSnapshot : (ofSnapshot snapshot defaultGroup).nodes =
    (activeNodes snapshot defaultGroup).map
      (NodeClaims.withHolder (holder? (distinctTasks snapshot defaultGroup))) :=
  congrArg NodeClaims.nodes (claims_eq_outcome snapshot defaultGroup)

/-- The conflict of a task is its first contested listing. -/
theorem conflicts_ofSnapshot :
    (ofSnapshot snapshot defaultGroup).conflicts =
      OrderedMap.ofList
        ((distinctTasks snapshot defaultGroup).filterMap fun task =>
          (contested (activeNodes snapshot defaultGroup)
            (distinctTasks snapshot defaultGroup)
            task).head?.map fun conflict => (task.id, conflict)) :=
  congrArg NodeClaims.conflicts (claims_eq_outcome snapshot defaultGroup)

theorem doubleBooked_ofSnapshot :
    (ofSnapshot snapshot defaultGroup).stats.doubleBooked =
      ((distinctTasks snapshot defaultGroup).flatMap (contested
        (activeNodes snapshot defaultGroup)
        (distinctTasks snapshot defaultGroup))).length :=
  congrArg NodeClaims.doubleBooked (claims_eq_outcome snapshot defaultGroup)

/-- A reported occupant is stale if another task or none holds the node. -/
theorem staleOccupancy_ofSnapshot :
    (ofSnapshot snapshot defaultGroup).stats.staleOccupancy =
      ((activeNodes snapshot defaultGroup).filter fun node =>
        node.working.isSome ∧
          node.working ≠
            holder? (distinctTasks snapshot defaultGroup)
              node.name).length := by
  simp only [ofSnapshot, claims_eq_outcome]
  refine congrArg List.length (List.filter_congr fun node hnode => ?_)
  rw [NodeClaims.occupant?_outcome hnode]

/-- The nodes of a working set but for their occupants. -/
theorem vacated_ofSnapshot_nodes :
    (ofSnapshot snapshot defaultGroup).nodes.map Node.vacated =
      (activeNodes snapshot defaultGroup).map Node.vacated := by
  rw [nodes_ofSnapshot, List.map_map]
  rfl

theorem mem_ofSnapshot_nodes {node : Node}
    (hmem : node ∈ (ofSnapshot snapshot defaultGroup).nodes) :
    (∃ row ∈ activeNodes snapshot defaultGroup, row.name = node.name) ∧
      node.working =
        holder? (distinctTasks snapshot defaultGroup) node.name := by
  rw [nodes_ofSnapshot] at hmem
  obtain ⟨row, hrow, rfl⟩ := List.mem_map.mp hmem
  exact ⟨⟨row, hrow, rfl⟩, rfl⟩

/-- Every active node is in the working set. -/
theorem exists_mem_ofSnapshot_nodes {row : Node}
    (hrow : row ∈ activeNodes snapshot defaultGroup) :
    ∃ node ∈ (ofSnapshot snapshot defaultGroup).nodes,
      node.name = row.name := by
  rw [nodes_ofSnapshot]
  exact ⟨_, List.mem_map_of_mem hrow, rfl⟩

/-- A task without a conflict has no contested listing. -/
theorem contested_eq_nil {task : Task}
    (hmem : task ∈ distinctTasks snapshot defaultGroup)
    (hconflict : (ofSnapshot snapshot defaultGroup).conflicts.get? task.id =
      none) :
    contested (activeNodes snapshot defaultGroup)
        (distinctTasks snapshot defaultGroup) task = [] := by
  rw [conflicts_ofSnapshot] at hconflict
  have hno := OrderedMap.get?_ofList_eq_none_iff.mp hconflict
  rw [← List.head?_eq_none_iff]
  cases hhead : (contested (activeNodes snapshot defaultGroup)
      (distinctTasks snapshot defaultGroup) task).head? with
  | none => rfl
  | some conflict =>
    refine absurd rfl
      (hno (task.id, conflict) (List.mem_filterMap.mpr ⟨task, hmem, ?_⟩))
    rw [hhead]
    rfl

/-- No two scheduled tasks list one active node, and none lists it twice. -/
structure Exclusive (nodes : List Node) (tasks : List Task) : Prop where
  apart : ∀ left ∈ tasks, ∀ right ∈ tasks, left.isScheduled →
    right.isScheduled → ∀ node ∈ nodes, node.name ∈ left.assignedNodes →
    node.name ∈ right.assignedNodes → left.id = right.id
  once : ∀ task ∈ tasks, task.isScheduled → ∀ node ∈ nodes,
    node.name ∈ task.assignedNodes → task.assignedNodes.count node.name = 1

theorem Exclusive.contested_eq_nil {nodes : List Node} {tasks : List Task}
    (hexclusive : Exclusive nodes tasks) {task : Task} (htask : task ∈ tasks) :
    contested nodes tasks task = [] := by
  rw [contested]
  split
  case isTrue hscheduled =>
    apply contestedNames_eq_nil
    intro name hlisted hactive
    obtain ⟨node, hnode, hname⟩ := List.any_eq_true.mp hactive
    obtain rfl : node.name = name := by simpa using hname
    obtain ⟨id, hholder⟩ := exists_holder?_of_listed htask hscheduled hlisted
    obtain ⟨holder, hmem, rfl, hholds, hholderListed⟩ :=
      exists_of_holder?_eq_some hholder
    have hsame : holder.id = task.id :=
      hexclusive.apart holder hmem task htask hholds hscheduled node hnode
        hholderListed hlisted
    exact ⟨hholder.trans (congrArg some hsame),
      hexclusive.once task htask hscheduled node hnode hlisted,
      List.not_mem_nil⟩
  · rfl

/-- Where the tasks are exclusive, there are no conflicts. -/
theorem conflicts_of_exclusive
    (hexclusive : Exclusive (activeNodes snapshot defaultGroup)
      (distinctTasks snapshot defaultGroup)) :
    (ofSnapshot snapshot defaultGroup).conflicts.entries = [] ∧
      (ofSnapshot snapshot defaultGroup).stats.doubleBooked = 0 := by
  have hnone : ∀ task ∈ distinctTasks snapshot defaultGroup,
      contested (activeNodes snapshot defaultGroup)
          (distinctTasks snapshot defaultGroup) task = [] :=
    fun _ => hexclusive.contested_eq_nil
  have hconflicts :
      ((distinctTasks snapshot defaultGroup).filterMap fun task =>
          (contested (activeNodes snapshot defaultGroup)
            (distinctTasks snapshot defaultGroup)
            task).head?.map fun conflict => (task.id, conflict)) = [] := by
    rw [List.filterMap_eq_nil_iff]
    intro task htask
    rw [hnone task htask]
    rfl
  constructor
  · rw [conflicts_ofSnapshot, hconflicts]
    rfl
  · rw [doubleBooked_ofSnapshot, List.length_eq_zero_iff,
      List.flatMap_eq_nil_iff]
    exact hnone

/-- The head of a chain is not finished, and no attempt of the chain that is not
finished is later. -/
theorem isHeadAmong_iff {tasks : List Task} {task : Task} :
    isHeadAmong tasks task ↔
      task.isFinished = false ∧
        ∀ other ∈ tasks, other.isFinished = false →
          other.chainId = task.chainId → other.id.value ≤ task.id.value := by
  simp only [isHeadAmong, Bool.and_eq_true, Bool.not_eq_true', List.all_eq_true,
    Bool.or_eq_true, decide_eq_true_eq]
  refine and_congr_right fun _ => forall₂_congr fun other _ => ?_
  rw [or_assoc, or_iff_not_imp_left, or_iff_not_imp_left, Bool.not_eq_true,
    not_not]

theorem id_le_of_isChainHead {head : PreparedTask}
    (hmem : head ∈ (ofSnapshot snapshot defaultGroup).tasks)
    (hhead : head.isChainHead) :
    head.task.isFinished = false ∧
      ∀ other ∈ (ofSnapshot snapshot defaultGroup).tasks,
        other.task.isFinished = false → other.task.chainId = head.task.chainId →
        other.id.value ≤ head.id.value := by
  obtain ⟨task, htask, rfl⟩ := List.mem_map.mp hmem
  obtain ⟨hopen, hlatest⟩ := isHeadAmong_iff.mp hhead
  exact ⟨hopen, fun other hother =>
    hlatest other.task (mem_ofSnapshot_tasks snapshot defaultGroup hother)⟩

/-- A chain has one head. -/
theorem chainHead_unique {left right : PreparedTask}
    (hleft : left ∈ (ofSnapshot snapshot defaultGroup).tasks)
    (hright : right ∈ (ofSnapshot snapshot defaultGroup).tasks)
    (hleftHead : left.isChainHead) (hrightHead : right.isChainHead)
    (hchain : left.task.chainId = right.task.chainId) : left.id = right.id := by
  obtain ⟨hleftOpen, hleftLatest⟩ :=
    id_le_of_isChainHead snapshot defaultGroup hleft hleftHead
  obtain ⟨hrightOpen, hrightLatest⟩ :=
    id_le_of_isChainHead snapshot defaultGroup hright hrightHead
  exact congrArg TaskId.mk
    (UInt64.le_antisymm (hrightLatest left hleft hleftOpen hchain)
      (hleftLatest right hright hrightOpen hchain.symm))

/-- Every snapshot makes a consistent working set. -/
theorem consistent_ofSnapshot :
    (ofSnapshot snapshot defaultGroup).Consistent where
  taskIds := by
    have hids : (ofSnapshot snapshot defaultGroup).tasks.map PreparedTask.id =
        (distinctTasks snapshot defaultGroup).map Task.id := by
      simp [ofSnapshot, PreparedTask.id, Function.comp_def]
    rw [hids]
    exact nodup_distinctTasks snapshot defaultGroup
  nodeOrder := by
    rw [nodes_ofSnapshot, List.pairwise_map]
    exact activeNodes_ordered snapshot defaultGroup
  occupant := by
    intro node hnode id hworking
    rw [(mem_ofSnapshot_nodes snapshot defaultGroup hnode).2] at hworking
    obtain ⟨task, htask, rfl, hscheduled, hlisted⟩ :=
      exists_of_holder?_eq_some hworking
    exact ⟨_, List.mem_map_of_mem htask, rfl, hscheduled, hlisted⟩
  undisputed := by
    intro prepared hprepared hscheduled hconflict node hnode hlisted
    have htask := mem_ofSnapshot_tasks snapshot defaultGroup hprepared
    obtain ⟨⟨row, hrow, hname⟩, hworking⟩ :=
      mem_ofSnapshot_nodes snapshot defaultGroup hnode
    obtain ⟨holder, hholder⟩ :=
      exists_holder?_of_listed htask hscheduled hlisted
    have hnone := contested_eq_nil snapshot defaultGroup htask hconflict
    rw [contested, if_pos hscheduled] at hnone
    have hactive : (activeNodes snapshot defaultGroup).any fun row =>
        row.name = node.name :=
      List.any_eq_true.mpr ⟨row, hrow, by simp [hname]⟩
    obtain ⟨rfl, -, hcount⟩ :=
      held_of_contestedNames_eq_nil hnone hlisted hactive hholder
    exact ⟨hworking.trans hholder, hcount⟩
  priority := by
    intro prepared hprepared
    obtain ⟨task, -, rfl⟩ := List.mem_map.mp hprepared
    rfl

/-- Of a user with several rows the last one counts. -/
theorem user_get?_users (name : UserName) :
    ((ofSnapshot snapshot defaultGroup).users.get? name).map UserView.user =
      snapshot.users.reverse.find? fun user => user.userName = name := by
  simp only [ofSnapshot]
  rw [OrderedMap.get?_ofList_entries_map, Option.map_map,
    OrderedMap.get?_ofList, ← List.map_reverse, List.find?_map, Option.map_map,
    Option.map_map]
  exact Option.map_id'

/-- Only users of the snapshot have a view. -/
theorem exists_user_of_view {name : UserName} {view : UserView}
    (hview : (ofSnapshot snapshot defaultGroup).users.get? name = some view) :
    ∃ user ∈ snapshot.users, user.userName = name ∧ view.user = user := by
  have hfound := user_get?_users snapshot defaultGroup name
  rw [hview] at hfound
  have hmem := List.mem_of_find?_eq_some hfound.symm
  have hname : view.user.userName = name := by
    simpa using List.find?_some hfound.symm
  exact ⟨view.user, List.mem_reverse.mp hmem, hname, rfl⟩

theorem length_ofSnapshot_nodes :
    (ofSnapshot snapshot defaultGroup).nodes.length =
      (activeNodes snapshot defaultGroup).length := by
  rw [nodes_ofSnapshot, List.length_map]

theorem length_filter_vacated (nodes : List Node) (group : GroupName) :
    ((nodes.map Node.vacated).filter fun node => node.group = group).length =
      (nodes.filter fun node => node.group = group).length := by
  rw [List.filter_map, List.length_map]
  rfl

/-- The size of a group depends on the nodes but for their occupants. -/
theorem groupSize_congr {left right : WorkingSet}
    (hsame : left.nodes.map Node.vacated = right.nodes.map Node.vacated) :
    left.groupSize = right.groupSize := by
  funext group
  rw [groupSize, ← length_filter_vacated, hsame, length_filter_vacated,
    groupSize]

theorem groupSize_le_length (set : WorkingSet) (group : GroupName) :
    set.groupSize group ≤ set.nodes.length :=
  List.length_filter_le _ _

end ClusterTick.WorkingSet

namespace ClusterTick.Tick

/-- A tick works on a consistent working set. -/
theorem consistent_workingSet (snapshot : Snapshot) (config : EngineConfig) :
    (workingSet snapshot config).Consistent :=
  have hset := WorkingSet.consistent_ofSnapshot snapshot config.defaultGroup
  ⟨hset.taskIds, hset.nodeOrder, hset.occupant, hset.undisputed, hset.priority⟩

/-- The tasks of a tick are the task rows with their derived columns. -/
theorem tasks_workingSet (snapshot : Snapshot) (config : EngineConfig) :
    (workingSet snapshot config).tasks =
      (WorkingSet.distinctTasks snapshot config.defaultGroup).map
        (WorkingSet.derive (workingSet snapshot config).users
          (WorkingSet.distinctTasks snapshot config.defaultGroup)) := rfl

theorem exists_prepared_of_mem (snapshot : Snapshot) (config : EngineConfig)
    {task : Task}
    (htask : task ∈ WorkingSet.distinctTasks snapshot config.defaultGroup) :
    ∃ prepared ∈ (workingSet snapshot config).tasks, prepared.task = task :=
  ⟨_, List.mem_map_of_mem htask, rfl⟩

end ClusterTick.Tick
