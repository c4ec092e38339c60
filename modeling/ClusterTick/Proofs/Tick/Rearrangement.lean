import ClusterTick.Proofs.Rules.Answers
import ClusterTick.Proofs.Tick.WorkingSet

/-!
# Rows in another order

Two snapshots may have the same rows in another order.  Where the rows make
clear which is which, and no two scheduled tasks claim one node, the same
working set is derived from both, but for the order of its tasks.  The rules
then answer alike; only the attempt that a denial names may be another one of
its chain.
-/

namespace ClusterTick

namespace Snapshot

/-- The same rows, in any order. -/
structure Rearranged (left right : Snapshot) : Prop where
  rest :
    { left with
      nodes := right.nodes, tasks := right.tasks, users := right.users } = right
  nodes : left.nodes.Perm right.nodes
  tasks : left.tasks.Perm right.tasks
  users : left.users.Perm right.users

/-- No task, active node or user has two rows, and no active node is listed
twice by scheduled tasks. -/
structure Unambiguous (snapshot : Snapshot) : Prop where
  taskIds : (snapshot.tasks.map Task.id).Nodup
  nodeNames : ((snapshot.nodes.filter Node.active).map Node.name).Nodup
  userNames : (snapshot.users.map User.userName).Nodup
  listings : ∀ node ∈ snapshot.nodes, node.active →
    ((snapshot.tasks.filter Task.isScheduled).flatMap Task.assignedNodes).count
        node.name ≤ 1

variable {left right : Snapshot}

/-- All rows in the opposite order. -/
def reversed (snapshot : Snapshot) : Snapshot :=
  { snapshot with
    nodes := snapshot.nodes.reverse
    tasks := snapshot.tasks.reverse
    users := snapshot.users.reverse }

theorem rearranged_reversed (snapshot : Snapshot) :
    snapshot.reversed.Rearranged snapshot where
  rest := rfl
  nodes := List.reverse_perm _
  tasks := List.reverse_perm _
  users := List.reverse_perm _

theorem Rearranged.valid_eq (hsame : left.Rearranged right) :
    left.valid = right.valid := by
  rw [← hsame.rest]

theorem Rearranged.unambiguous (hsame : left.Rearranged right)
    (hclear : right.Unambiguous) : left.Unambiguous where
  taskIds := (hsame.tasks.map Task.id).nodup_iff.mpr hclear.taskIds
  nodeNames :=
    ((hsame.nodes.filter Node.active).map Node.name).nodup_iff.mpr
      hclear.nodeNames
  userNames := (hsame.users.map User.userName).nodup_iff.mpr hclear.userNames
  listings := by
    intro node hnode hactive
    rw [((hsame.tasks.filter Task.isScheduled).flatMap_right
      Task.assignedNodes).count_eq]
    exact hclear.listings node (hsame.nodes.subset hnode) hactive

end Snapshot

namespace WorkingSet

section Listings

/-! ## Listed once -/

variable {tasks : List Task} {name : NodeName}

/-- A name that scheduled tasks list once is listed by one of them. -/
theorem eq_of_count_le_one
    (hcount : ((tasks.filter Task.isScheduled).flatMap Task.assignedNodes).count
        name ≤ 1)
    {left right : Task} (hleft : left ∈ tasks) (hright : right ∈ tasks)
    (hleftScheduled : left.isScheduled) (hrightScheduled : right.isScheduled)
    (hleftListed : name ∈ left.assignedNodes)
    (hrightListed : name ∈ right.assignedNodes) : left = right := by
  by_contra hne
  have hfirst : left ∈ tasks.filter Task.isScheduled :=
    List.mem_filter.mpr ⟨hleft, hleftScheduled⟩
  have hsecond : right ∈ (tasks.filter Task.isScheduled).erase left :=
    (List.mem_erase_of_ne (Ne.symm hne)).mpr
      (List.mem_filter.mpr ⟨hright, hrightScheduled⟩)
  have hperm :=
    (List.perm_cons_erase hfirst).trans
      ((List.perm_cons_erase hsecond).cons left)
  rw [(hperm.flatMap_right Task.assignedNodes).count_eq, List.flatMap_cons,
    List.flatMap_cons, List.count_append, List.count_append] at hcount
  have hone := List.count_pos_iff.mpr hleftListed
  have hother := List.count_pos_iff.mpr hrightListed
  omega

private theorem count_assignedNodes_eq_one
    (hcount : ((tasks.filter Task.isScheduled).flatMap Task.assignedNodes).count
        name ≤ 1)
    {task : Task} (htask : task ∈ tasks) (hscheduled : task.isScheduled)
    (hlisted : name ∈ task.assignedNodes) :
    task.assignedNodes.count name = 1 := by
  have hmem : task ∈ tasks.filter Task.isScheduled :=
    List.mem_filter.mpr ⟨htask, hscheduled⟩
  have hperm := List.perm_cons_erase hmem
  rw [(hperm.flatMap_right Task.assignedNodes).count_eq, List.flatMap_cons,
    List.count_append] at hcount
  have hpos := List.count_pos_iff.mpr hlisted
  omega

/-- Then the tasks are exclusive. -/
theorem exclusive_of_listings {nodes : List Node}
    (hcount : ∀ node ∈ nodes,
      ((tasks.filter Task.isScheduled).flatMap Task.assignedNodes).count
          node.name ≤ 1) :
    Exclusive nodes tasks where
  apart := by
    intro left hleft right hright hleftScheduled hrightScheduled node hnode
      hleftListed hrightListed
    exact congrArg Task.id
      (eq_of_count_le_one (hcount node hnode) hleft hright hleftScheduled
        hrightScheduled hleftListed hrightListed)
  once := by
    intro task htask hscheduled node hnode hlisted
    exact count_assignedNodes_eq_one (hcount node hnode) htask hscheduled
      hlisted

end Listings

section Snapshot

/-! ## What is derived from the rows -/

variable {left right snapshot : Snapshot} {defaultGroup : GroupName}

theorem count_of_unambiguous (hclear : snapshot.Unambiguous) {node : Node}
    (hnode : node ∈ activeNodes snapshot defaultGroup) :
    (((distinctTasks snapshot defaultGroup).filter Task.isScheduled).flatMap
      Task.assignedNodes).count node.name ≤ 1 := by
  have hlisted :
      ((distinctTasks snapshot defaultGroup).filter Task.isScheduled).flatMap
          Task.assignedNodes =
        (snapshot.tasks.filter Task.isScheduled).flatMap
          Task.assignedNodes := by
    rw [distinctTasks_of_nodup hclear.taskIds, List.filter_map,
      List.flatMap_map]
    rfl
  obtain ⟨row, hrow, rfl⟩ :=
    List.mem_map.mp (OrderedMap.mem_of_mem_lastRows hnode)
  obtain ⟨hmem, hactive⟩ := List.mem_filter.mp hrow
  rw [hlisted]
  exact hclear.listings row hmem hactive

theorem exclusive_of_unambiguous (hclear : snapshot.Unambiguous) :
    Exclusive (activeNodes snapshot defaultGroup)
      (distinctTasks snapshot defaultGroup) :=
  exclusive_of_listings fun _ => count_of_unambiguous hclear

variable (hsame : left.Rearranged right) (hclear : right.Unambiguous)

include hsame hclear

theorem distinctTasks_perm :
    (distinctTasks left defaultGroup).Perm
      (distinctTasks right defaultGroup) := by
  rw [distinctTasks_of_nodup hclear.taskIds,
    distinctTasks_of_nodup (hsame.unambiguous hclear).taskIds]
  exact hsame.tasks.map _

private theorem activeNodes_of_rearranged :
    activeNodes left defaultGroup = activeNodes right defaultGroup := by
  apply OrderedMap.lastRows_of_perm ((hsame.nodes.filter Node.active).map _)
  rw [List.map_map]
  exact hclear.nodeNames

/-- Each active node has the same holder. -/
theorem holder?_of_rearranged {node : Node}
    (hnode : node ∈ activeNodes right defaultGroup) :
    holder? (distinctTasks left defaultGroup) node.name =
      holder? (distinctTasks right defaultGroup) node.name := by
  rw [holder?, find?_of_perm (distinctTasks_perm hsame hclear), holder?]
  intro first hfirst second hsecond hleft hright
  rw [decide_eq_true_eq] at hleft hright
  exact eq_of_count_le_one (count_of_unambiguous hclear hnode) hfirst hsecond
    hleft.1 hright.1 hleft.2 hright.2

theorem nodes_of_rearranged :
    (ofSnapshot left defaultGroup).nodes =
      (ofSnapshot right defaultGroup).nodes := by
  rw [nodes_ofSnapshot, activeNodes_of_rearranged hsame hclear,
    nodes_ofSnapshot]
  apply List.map_congr_left
  intro node hnode
  rw [NodeClaims.withHolder, holder?_of_rearranged hsame hclear hnode]
  rfl

private theorem users_of_rearranged :
    (ofSnapshot left defaultGroup).users =
      (ofSnapshot right defaultGroup).users := by
  have howners :
      OrderedMap.ofList (left.users.map fun user => (user.userName, user)) =
        OrderedMap.ofList
          (right.users.map fun user => (user.userName, user)) := by
    apply OrderedMap.ofList_of_perm (hsame.users.map _)
    rw [List.map_map]
    exact hclear.userNames
  have hnodes : (ofSnapshot left defaultGroup).nodes =
      (ofSnapshot right defaultGroup).nodes :=
    nodes_of_rearranged hsame hclear
  simp only [ofSnapshot] at hnodes ⊢
  rw [hnodes, howners]

private theorem conflicts_of_rearranged :
    (ofSnapshot left defaultGroup).conflicts =
      (ofSnapshot right defaultGroup).conflicts := by
  apply OrderedMap.eq_of_entries
  rw [(conflicts_of_exclusive left defaultGroup
      (exclusive_of_unambiguous (hsame.unambiguous hclear))).1,
    (conflicts_of_exclusive right defaultGroup
      (exclusive_of_unambiguous hclear)).1]

private theorem isHeadAmong_of_rearranged :
    isHeadAmong (distinctTasks left defaultGroup) =
      isHeadAmong (distinctTasks right defaultGroup) := by
  funext task
  rw [isHeadAmong, (distinctTasks_perm hsame hclear).all_eq, isHeadAmong]

end Snapshot

/-- The same working set, but for the order of its tasks. -/
structure Rearranged (left right : WorkingSet) : Prop where
  valid : left.valid = right.valid
  nodes : left.nodes = right.nodes
  users : left.users = right.users
  conflicts : left.conflicts = right.conflicts
  chainHeads : left.chainHeads = right.chainHeads
  tasks : left.tasks.Perm right.tasks
  ids : (right.tasks.map PreparedTask.id).Nodup

end WorkingSet

/-- Snapshots with the same rows make the same working set. -/
theorem Tick.rearranged_workingSet {left right : Snapshot}
    (hsame : left.Rearranged right) (hclear : right.Unambiguous)
    (config : EngineConfig) :
    (workingSet left config).Rearranged (workingSet right config) := by
  have husers :
      (workingSet left config).users = (workingSet right config).users :=
    WorkingSet.users_of_rearranged hsame hclear
  have htasks :
      (workingSet left config).tasks.Perm (workingSet right config).tasks := by
    have hderive : WorkingSet.derive (workingSet left config).users
        (WorkingSet.distinctTasks left config.defaultGroup) =
          WorkingSet.derive (workingSet right config).users
            (WorkingSet.distinctTasks right config.defaultGroup) := by
      funext task
      rw [WorkingSet.derive, husers,
        WorkingSet.isHeadAmong_of_rearranged hsame hclear, WorkingSet.derive]
    rw [tasks_workingSet, tasks_workingSet, hderive]
    exact (WorkingSet.distinctTasks_perm hsame hclear).map _
  have hids := (consistent_workingSet right config).taskIds
  -- A chain has one head, so the map of heads has one entry for each chain at
  -- most.
  have hheads :
      (((workingSet right config).tasks.filter
            PreparedTask.isChainHead).map fun prepared =>
              (prepared.task.chainId, prepared.id)).map Prod.fst
        |>.Nodup := by
    rw [List.map_map]
    apply List.Nodup.map_on _ ((List.Nodup.of_map _ hids).filter _)
    intro first hfirst second hsecond hchain
    obtain ⟨hfirstMem, hfirstHead⟩ := List.mem_filter.mp hfirst
    obtain ⟨hsecondMem, hsecondHead⟩ := List.mem_filter.mp hsecond
    exact List.inj_on_of_nodup_map hids hfirstMem hsecondMem
      (WorkingSet.chainHead_unique right config.defaultGroup hfirstMem
        hsecondMem hfirstHead hsecondHead hchain)
  exact {
    valid := by
      show (left.valid && _) = (right.valid && _)
      rw [hsame.valid_eq]
    nodes := WorkingSet.nodes_of_rearranged hsame hclear
    users := husers
    conflicts := WorkingSet.conflicts_of_rearranged hsame hclear
    chainHeads := OrderedMap.ofList_of_perm ((htasks.filter _).map _) hheads
    tasks := htasks
    ids := hids }

namespace WorkingSet.Rearranged

/-! ## What the rules answer -/

variable {left right : WorkingSet} {sizes : PartitionSizes}
  {task : PreparedTask}
variable (hsame : left.Rearranged right)

include hsame

theorem ids_left : (left.tasks.map PreparedTask.id).Nodup :=
  (hsame.tasks.map PreparedTask.id).nodup_iff.mpr hsame.ids

theorem groupSize_eq : left.groupSize = right.groupSize :=
  groupSize_congr (congrArg _ hsame.nodes)

theorem bucketMembers_perm (scope : WalkScope) (bucket : QuotaBucket) :
    (QuotaAdmission.bucketMembers left scope bucket).Perm
      (QuotaAdmission.bucketMembers right scope bucket) :=
  (hsame.tasks.filter _).filter _

private theorem bucketTasks_eq (scope : WalkScope) (bucket : QuotaBucket) :
    QuotaAdmission.bucketTasks left scope bucket =
      QuotaAdmission.bucketTasks right scope bucket := by
  apply mergeSort_of_perm QuotaAdmission.compareWalk
    (hsame.bucketMembers_perm scope bucket)
  intro first hfirst second hsecond
  exact QuotaAdmission.eq_of_compareWalk hsame.ids
    (List.mem_of_mem_filter (List.mem_of_mem_filter hfirst))
    (List.mem_of_mem_filter (List.mem_of_mem_filter hsecond))

/-- The walk over a bucket has an order of its own. -/
theorem check_walk_eq (scope : WalkScope) (htask : task ∈ right.tasks) :
    (QuotaAdmission.walk left sizes scope).check task.id =
      (QuotaAdmission.walk right sizes scope).check task.id := by
  rw [QuotaAdmission.check_walk hsame.ids_left (hsame.tasks.mem_iff.mpr htask),
    QuotaAdmission.check_walk hsame.ids htask]
  apply RuleVerdict.check_ofChecks_congr
    (QuotaAdmission.nodup_bucketChecks hsame.ids_left)
    (QuotaAdmission.nodup_bucketChecks hsame.ids)
  intro check
  rw [QuotaAdmission.bucketChecks_eq, QuotaAdmission.bucketChecks_eq,
    hsame.users, hsame.bucketTasks_eq]
  split
  · exact Iff.rfl
  · exact ((hsame.bucketMembers_perm scope _).map _).mem_iff

theorem keepRunningCheck_eq (htask : task ∈ right.tasks) :
    keepRunningCheck left (QuotaAdmission.walk left sizes .scheduled) task =
      keepRunningCheck right (QuotaAdmission.walk right sizes .scheduled)
        task := by
  simp only [keepRunningCheck, hsame.conflicts, hsame.chainHeads,
    hsame.check_walk_eq _ htask]

/-- Both see whether an attempt of a chain holds nodes, though not the same one
if several do. -/
theorem runningAttempt?_eq_none_iff (chain : ChainId) :
    runningAttempt? left chain = none ↔ runningAttempt? right chain = none := by
  rw [runningAttempt?, runningAttempt?, Option.map_eq_none_iff,
    Option.map_eq_none_iff, List.find?_eq_none, List.find?_eq_none]
  simp only [List.mem_reverse, hsame.tasks.mem_iff]

theorem passes_startCheck :
    (startCheck left task).passes = (startCheck right task).passes := by
  rw [Bool.eq_iff_iff, Check.passes_iff, Check.passes_iff,
    startCheck_eq_approved_iff, startCheck_eq_approved_iff, hsame.users,
    hsame.runningAttempt?_eq_none_iff]

end WorkingSet.Rearranged

end ClusterTick
