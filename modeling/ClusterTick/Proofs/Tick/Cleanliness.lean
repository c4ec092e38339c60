import ClusterTick.Proofs.Tick.WorkingSet

/-!
# Clean snapshots

A snapshot is clean if its rows fit together: nothing has two rows, scheduled
tasks list as many nodes as they need and no two of them the same node, and the
occupancy that the nodes report is the one that the tasks list.  A tick has
nothing to remark about it.
-/

namespace ClusterTick

/-- Whether the rows of a snapshot fit together. -/
structure Snapshot.Clean (snapshot : Snapshot) : Prop where
  nodeNames : (snapshot.nodes.map Node.name).Nodup
  taskIds : (snapshot.tasks.map Task.id).Nodup
  chainIds : (snapshot.tasks.map Task.chainId).Nodup
  userNames : (snapshot.users.map User.userName).Nodup
  /-- A scheduled task lists as many nodes as it needs, each once and each with
  a row. -/
  scheduled : ∀ task ∈ snapshot.tasks, task.isScheduled →
    task.assignedNodes.length = task.nodes.toNat ∧ task.assignedNodes.Nodup ∧
      task.assignedNodes ⊆ snapshot.nodes.map Node.name
  /-- All others are queued and list nothing. -/
  queued : ∀ task ∈ snapshot.tasks, task.isScheduled = false →
    task.isQueued ∧ task.assignedNodes = []
  /-- No two tasks list one node. -/
  apart : ∀ left ∈ snapshot.tasks, ∀ right ∈ snapshot.tasks,
    ∀ name ∈ left.assignedNodes, name ∈ right.assignedNodes → left = right
  /-- A node reports the task that lists it. -/
  occupancy : ∀ node ∈ snapshot.nodes, ∀ id, node.working = some id ↔
    ∃ task ∈ snapshot.tasks, task.id = id ∧ node.name ∈ task.assignedNodes

namespace WorkingSet

/-- A working set from whose snapshot nothing had to be dropped or put right. -/
structure Unremarkable (set : WorkingSet) : Prop where
  duplicateNodes : set.stats.duplicateNodes = 0
  duplicateTasks : set.stats.duplicateTasks = 0
  staleOccupancy : set.stats.staleOccupancy = 0
  doubleBooked : set.stats.doubleBooked = 0
  conflicts : set.conflicts.entries = []

variable {snapshot : Snapshot} (defaultGroup : GroupName)
  (hclean : snapshot.Clean)

include hclean

/-- No active node is dropped. -/
theorem length_activeNodes_of_clean :
    (activeNodes snapshot defaultGroup).length =
      (snapshot.nodes.filter Node.active).length := by
  have hdistinct : (((snapshot.nodes.filter Node.active).map
      (normalizeNode defaultGroup)).map Node.name).Nodup := by
    rw [List.map_map]
    exact hclean.nodeNames.sublist (List.filter_sublist.map _)
  rw [activeNodes, (OrderedMap.lastRows_perm hdistinct).length_eq,
    List.length_map]

private theorem isScheduled_of_listed {task : Task}
    (htask : task ∈ snapshot.tasks) {name : NodeName}
    (hlisted : name ∈ task.assignedNodes) : task.isScheduled := by
  by_contra hwaiting
  rw [Bool.not_eq_true] at hwaiting
  rw [(hclean.queued task htask hwaiting).2] at hlisted
  cases hlisted

theorem exclusive_of_clean : Exclusive (activeNodes snapshot defaultGroup)
    (distinctTasks snapshot defaultGroup) where
  apart := by
    rw [distinctTasks_of_nodup hclean.taskIds]
    intro left hleft right hright _ _ node _ hleftListed hrightListed
    obtain ⟨first, hfirst, rfl⟩ := List.mem_map.mp hleft
    obtain ⟨second, hsecond, rfl⟩ := List.mem_map.mp hright
    rw [hclean.apart first hfirst second hsecond node.name hleftListed
      hrightListed]
  once := by
    rw [distinctTasks_of_nodup hclean.taskIds]
    intro task htask hscheduled node _ hlisted
    obtain ⟨row, hrow, rfl⟩ := List.mem_map.mp htask
    exact List.count_eq_one_of_mem (hclean.scheduled row hrow hscheduled).2.1
      hlisted

/-- The task that a node reports is the one that is found to hold it. -/
theorem holder?_of_working {node : Node} (hnode : node ∈ snapshot.nodes)
    {id : TaskId} (hworking : node.working = some id) :
    holder? (distinctTasks snapshot defaultGroup) node.name = some id := by
  obtain ⟨task, htask, rfl, hlisted⟩ :=
    (hclean.occupancy node hnode id).mp hworking
  have hscheduled := isScheduled_of_listed hclean htask hlisted
  rw [distinctTasks_of_nodup hclean.taskIds]
  obtain ⟨holder, hholder⟩ :=
    exists_holder?_of_listed
      (List.mem_map_of_mem (f := normalizeTask defaultGroup) htask) hscheduled
      hlisted
  obtain ⟨other, hother, rfl, -, hotherListed⟩ :=
    exists_of_holder?_eq_some hholder
  obtain ⟨row, hrow, rfl⟩ := List.mem_map.mp hother
  have hsame : row = task :=
    hclean.apart row hrow task htask node.name hotherListed hlisted
  rw [hholder, hsame]
  rfl

/-- A tick has nothing to remark about a clean snapshot. -/
theorem unremarkable_ofSnapshot :
    (ofSnapshot snapshot defaultGroup).Unremarkable where
  duplicateNodes := by
    simp only [ofSnapshot, length_activeNodes_of_clean defaultGroup hclean,
      Nat.sub_self]
  duplicateTasks := by
    simp only [ofSnapshot, keepFirst_of_nodup hclean.taskIds]
  staleOccupancy := by
    rw [staleOccupancy_ofSnapshot, List.length_eq_zero_iff,
      List.filter_eq_nil_iff]
    intro row hrow hstale
    obtain ⟨node, hnode, rfl⟩ :=
      List.mem_map.mp (OrderedMap.mem_of_mem_lastRows hrow)
    obtain ⟨hsome, hother⟩ := of_decide_eq_true hstale
    obtain ⟨id, hid⟩ := Option.isSome_iff_exists.mp hsome
    have hholder :=
      holder?_of_working defaultGroup hclean (List.mem_of_mem_filter hnode) hid
    exact hother (hid.trans hholder.symm)
  doubleBooked := (conflicts_of_exclusive snapshot defaultGroup
    (exclusive_of_clean defaultGroup hclean)).2
  conflicts := (conflicts_of_exclusive snapshot defaultGroup
    (exclusive_of_clean defaultGroup hclean)).1

end WorkingSet

end ClusterTick
