import ClusterTick.Proofs.Match.Handover
import ClusterTick.Proofs.Tick.Enactment
import ClusterTick.Proofs.Tick.PreemptionSafety

/-!
# The intents in their own order

The intents of a tick can be carried out one after the other as they stand in
the batch: whenever a task is to start, its nodes are free, for their former
occupants have been suspended before.  At the end the nodes are occupied as the
projected task rows say.
-/

namespace ClusterTick

/-- Who occupies which node. -/
abbrev Occupancy := NodeName → Option TaskId

namespace Occupancy

/-- The occupants that node rows name. -/
def ofNodes (nodes : List Node) : Occupancy := fun name =>
  (nodes.find? fun node => node.name = name).bind Node.working

/-- The occupancy once an intent has been carried out. -/
def enact (occupancy : Occupancy) (intent : Intent) : Occupancy :=
  match intent.kind with
  | .suspend => fun name =>
    if occupancy name = some intent.taskId then none else occupancy name
  | .startup => fun name =>
    if name ∈ intent.nodes then some intent.taskId else occupancy name
  | .keepRunning => occupancy

/-- The occupancy once intents have been carried out one after the other. -/
def replay (occupancy : Occupancy) (intents : List Intent) : Occupancy :=
  intents.foldl enact occupancy

/-- Intents can be carried out in their order: every task starts on nodes that
are unoccupied then, and their former occupants have been suspended before. -/
structure EnactsInOrder (initial : Occupancy) (intents : List Intent) :
    Prop where
  unoccupied : ∀ before intent after, intents = before ++ intent :: after →
    intent.kind = .startup → ∀ name ∈ intent.nodes,
    initial.replay before name = none
  suspended : ∀ before intent after, intents = before ++ intent :: after →
    intent.kind = .startup → ∀ name ∈ intent.nodes, ∀ id,
    initial name = some id →
    ∃ earlier ∈ before, earlier.kind = .suspend ∧ earlier.taskId = id

private theorem ofNodes_eq_some_iff {nodes : List Node}
    (hnames : (nodes.map Node.name).Nodup) {name : NodeName} {id : TaskId} :
    ofNodes nodes name = some id ↔
      ∃ node ∈ nodes, node.name = name ∧ node.working = some id := by
  rw [ofNodes, Option.bind_eq_some_iff]
  simp only [find?_key_eq_some_iff hnames, and_assoc]

end Occupancy

section Rows

/-! ## Replaying rows -/

/-- What a replay of rows relies on. -/
structure Replayable (initial : Occupancy) (rows : List Task) : Prop where
  ids : (rows.map Task.id).Nodup
  /-- No two tasks start on one node. -/
  apart : ∀ left ∈ rows, ∀ right ∈ rows, left.processResult = .startup →
    right.processResult = .startup → ∀ name ∈ left.assignedNodes,
    name ∈ right.assignedNodes → left = right
  /-- Former occupants are suspended first. -/
  handedOver : ∀ row ∈ rows, row.processResult = .startup →
    ∀ name ∈ row.assignedNodes, ∀ id, initial name = some id →
    SuspendedBefore rows id row

/-- Who occupies a node according to rows: a task that has started on it, or who
occupied it at first and has not been suspended. -/
def OccupiedBy (initial : Occupancy) (rows : List Task) (name : NodeName)
    (id : TaskId) : Prop :=
  (∃ row ∈ rows, row.processResult = .startup ∧ row.id = id ∧
      name ∈ row.assignedNodes) ∨
    initial name = some id ∧
      ∀ row ∈ rows, row.id = id → row.processResult ≠ .suspend

variable {initial : Occupancy} {front back : List Task} {row : Task}

theorem Replayable.fresh
    (hreplayable : Replayable initial (front ++ row :: back)) {other : Task}
    (hother : other ∈ front) : other.id ≠ row.id := by
  have hids := hreplayable.ids
  rw [List.map_append, List.nodup_append'] at hids
  intro hid
  exact hids.2.2 (List.mem_map_of_mem hother) (by simp [hid])

/-- A start finds its nodes unoccupied, and their former occupants suspended. -/
theorem Replayable.not_occupied
    (hreplayable : Replayable initial (front ++ row :: back))
    (hstartup : row.processResult = .startup) {name : NodeName}
    (hname : name ∈ row.assignedNodes) (id : TaskId) :
    ¬ OccupiedBy initial front name id := by
  rintro (⟨other, hother, hotherStartup, -, hotherName⟩ | ⟨hinitial, hkept⟩)
  · have hsame : other = row :=
      hreplayable.apart other (List.mem_append_left _ hother) row (by simp)
        hotherStartup hstartup name hotherName hname
    exact hreplayable.fresh hother (congrArg Task.id hsame)
  · obtain ⟨suspended, hsuspended, hid, hresult⟩ :=
      (hreplayable.handedOver row (by simp) hstartup name hname id
          hinitial).exists_mem (List.Nodup.of_map Task.id hreplayable.ids)
    exact hkept suspended hsuspended hid hresult

theorem occupiedBy_append_iff {name : NodeName} {id : TaskId} :
    OccupiedBy initial (front ++ [row]) name id ↔
      (row.processResult = .startup ∧ row.id = id ∧ name ∈ row.assignedNodes) ∨
        (∃ other ∈ front, other.processResult = .startup ∧ other.id = id ∧
          name ∈ other.assignedNodes) ∨
        initial name = some id ∧
          (∀ other ∈ front, other.id = id → other.processResult ≠ .suspend) ∧
          (row.id = id → row.processResult ≠ .suspend) := by
  simp only [OccupiedBy, List.mem_append, List.mem_singleton, or_and_right,
    exists_or, exists_eq_left, or_imp, forall_and, forall_eq]
  rw [or_comm (a := ∃ other ∈ front, _), or_assoc]

/-- A start adds itself to the occupants. -/
theorem occupiedBy_of_startup (hstartup : row.processResult = .startup)
    {name : NodeName} {id : TaskId} :
    OccupiedBy initial (front ++ [row]) name id ↔
      (row.id = id ∧ name ∈ row.assignedNodes) ∨
        OccupiedBy initial front name id := by
  rw [occupiedBy_append_iff]
  simp [OccupiedBy, hstartup]

/-- A suspension takes its task from the occupants. -/
theorem Replayable.occupiedBy_of_suspend
    (hreplayable : Replayable initial (front ++ row :: back))
    (hsuspend : row.processResult = .suspend) {name : NodeName} {id : TaskId} :
    OccupiedBy initial (front ++ [row]) name id ↔
      OccupiedBy initial front name id ∧ row.id ≠ id := by
  have hfresh : ∀ other ∈ front, other.processResult = .startup →
      other.id = id → name ∈ other.assignedNodes → row.id ≠ id := by
    rintro other hother - rfl -
    exact Ne.symm (hreplayable.fresh hother)
  rw [occupiedBy_append_iff, hsuspend, OccupiedBy]
  constructor
  · rintro (⟨hnot, -⟩ | ⟨other, hother, hstarted, hid, hlisted⟩ | ⟨hinitial,
      hkept, hne⟩)
    · cases hnot
    · exact ⟨Or.inl ⟨other, hother, hstarted, hid, hlisted⟩,
        hfresh other hother hstarted hid hlisted⟩
    · exact ⟨Or.inr ⟨hinitial, hkept⟩, fun hid => hne hid rfl⟩
  · rintro ⟨⟨other, hother, hstarted⟩ | ⟨hinitial, hkept⟩, hne⟩
    · exact Or.inr (Or.inl ⟨other, hother, hstarted⟩)
    · exact Or.inr (Or.inr ⟨hinitial, hkept, fun hid => absurd hid hne⟩)

/-- Any other decision leaves the occupants. -/
theorem occupiedBy_of_idle (hstartup : row.processResult ≠ .startup)
    (hsuspend : row.processResult ≠ .suspend) {name : NodeName} {id : TaskId} :
    OccupiedBy initial (front ++ [row]) name id ↔
      OccupiedBy initial front name id := by
  rw [occupiedBy_append_iff]
  simp [OccupiedBy, hstartup, hsuspend]

/-- The occupancy once the intents for some rows have been carried out. -/
def replayRows (initial : Occupancy) (rows : List Task) : Occupancy :=
  initial.replay (rows.filterMap Assignment.intent?)

private theorem replayRows_append (initial : Occupancy) (front : List Task)
    (row : Task) :
    replayRows initial (front ++ [row]) = match Assignment.intent? row with
      | some intent => (replayRows initial front).enact intent
      | none => replayRows initial front := by
  rw [replayRows, List.filterMap_append, Occupancy.replay, List.foldl_append]
  cases hintent : Assignment.intent? row <;>
    simp [hintent, replayRows, Occupancy.replay]

/-- The replay leaves the occupants that the rows say. -/
theorem Replayable.replayRows_iff
    (hreplayable : Replayable initial (front ++ back)) (name : NodeName)
    (id : TaskId) :
    replayRows initial front name = some id ↔
      OccupiedBy initial front name id := by
  induction front using List.reverseRecOn generalizing back id with
  | nil => simp [replayRows, Occupancy.replay, OccupiedBy]
  | append_singleton front row ih =>
    rw [List.append_assoc, List.singleton_append] at hreplayable
    have hearlier := ih hreplayable
    rw [replayRows_append, Assignment.intent?]
    cases hresult : row.processResult with
    | startup =>
      rw [occupiedBy_of_startup hresult]
      by_cases hname : name ∈ row.assignedNodes
      · simp [Assignment.intentKind?, Occupancy.enact, hname,
          hreplayable.not_occupied hresult hname id]
      · simp [Assignment.intentKind?, Occupancy.enact, hname, hearlier]
    | suspend =>
      rw [hreplayable.occupiedBy_of_suspend hresult, ← hearlier]
      simp only [Assignment.intentKind?, Option.map_some, Occupancy.enact]
      split
      case isTrue hown => simp [hown]
      case isFalse hother =>
        refine ⟨fun hid => ⟨hid, fun hsame => hother (hsame ▸ hid)⟩, And.left⟩
    | keepRunning =>
      rw [occupiedBy_of_idle (by simp [hresult]) (by simp [hresult]),
        ← hearlier]
      rfl
    | notSure =>
      rw [occupiedBy_of_idle (by simp [hresult]) (by simp [hresult]),
        ← hearlier]
      rfl

theorem intent?_eq_some {intent : Intent}
    (hintent : Assignment.intent? row = some intent) :
    intent.taskId = row.id ∧ intent.nodes = row.assignedNodes ∧
      (intent.kind = .startup → row.processResult = .startup) := by
  rw [Assignment.intent?, Option.map_eq_some_iff] at hintent
  obtain ⟨kind, hkind, rfl⟩ := hintent
  refine ⟨rfl, rfl, ?_⟩
  rintro rfl
  cases hresult : row.processResult with
  | startup => rfl
  | suspend => simp [Assignment.intentKind?, hresult] at hkind
  | keepRunning => simp [Assignment.intentKind?, hresult] at hkind
  | notSure => simp [Assignment.intentKind?, hresult] at hkind

/-- The rows before an intent are those of the intents before it. -/
theorem exists_rows_of_split {rows : List Task} {before after : List Intent}
    {intent : Intent}
    (hsplit : rows.filterMap Assignment.intent? = before ++ intent :: after) :
    ∃ front row back, rows = front ++ row :: back ∧
      front.filterMap Assignment.intent? = before ∧
      Assignment.intent? row = some intent := by
  obtain ⟨front, rest, rfl, hfront, hrest⟩ :=
    List.filterMap_eq_append_iff.mp hsplit
  obtain ⟨idle, row, back, rfl, hidle, hrow, -⟩ :=
    List.filterMap_eq_cons_iff.mp hrest
  refine ⟨front ++ idle, row, back, by simp, ?_, hrow⟩
  rw [List.filterMap_append, hfront, List.filterMap_eq_nil_iff.mpr hidle,
    List.append_nil]

theorem Replayable.enactsInOrder {rows : List Task}
    (hreplayable : Replayable initial rows) :
    initial.EnactsInOrder (rows.filterMap Assignment.intent?) where
  unoccupied := by
    intro before intent after hsplit hkind name hname
    obtain ⟨front, row, back, rfl, rfl, hintent⟩ := exists_rows_of_split hsplit
    obtain ⟨-, hnodes, hstartup⟩ := intent?_eq_some hintent
    rw [Option.eq_none_iff_forall_ne_some]
    intro id hoccupied
    exact hreplayable.not_occupied (hstartup hkind) (hnodes ▸ hname) id
      ((hreplayable.replayRows_iff name id).mp hoccupied)
  suspended := by
    intro before intent after hsplit hkind name hname id hinitial
    obtain ⟨front, row, back, rfl, rfl, hintent⟩ := exists_rows_of_split hsplit
    obtain ⟨-, hnodes, hstartup⟩ := intent?_eq_some hintent
    obtain ⟨suspended, hsuspended, hid, hresult⟩ :=
      (hreplayable.handedOver row (by simp) (hstartup hkind) name
          (hnodes ▸ hname) id hinitial).exists_mem
        (List.Nodup.of_map Task.id hreplayable.ids)
    refine ⟨⟨suspended.id, suspended.chainId, suspended.userName,
        suspended.group, .suspend, suspended.assignedNodes⟩,
      List.mem_filterMap.mpr ⟨suspended, hsuspended, ?_⟩, rfl, hid⟩
    simp [Assignment.intent?, Assignment.intentKind?, hresult]

end Rows

namespace Tick

section Passes

/-! ## The order of the rows -/

variable {prepared : Prepared} {pass : MatchPass} {frame : List Node}

/-- In a pass, every start takes over from suspended tasks only. -/
theorem Ready.suspendedBefore (hready : Ready prepared pass frame) {row : Task}
    (hrow : row ∈ passRows prepared pass frame)
    (hstartup : row.processResult = .startup) {node : Node}
    (hnode : node ∈ frame) (hname : node.name ∈ row.assignedNodes) {id : TaskId}
    (hworking : node.working = some id) :
    SuspendedBefore (passRows prepared pass frame) id row := by
  have hlocal := hready.mem_passRows_iff.mp hrow
  obtain ⟨task, htask, hgroup, hruling⟩ := hready.ruling_of_mem hlocal
  have hopening :
      (groupPartition prepared pass frame row.group).opening.Occupies id
        node.name := by
    rw [Partition.opening_occupies_iff (hready.sound row.group).names]
    obtain ⟨other, hother, hotherName⟩ :=
      hruling.exists_node_of_startup hstartup hname
    rw [hready.node_unique (mem_nodes_groupPartition_iff.mp hother).1 hnode
      hotherName] at hother
    exact ⟨node, hother, rfl, hworking⟩
  have hwithin : (groupOutcome prepared pass frame row.group).tasks.Sublist
      (passRows prepared pass frame) :=
    List.sublist_flatten_of_mem (List.mem_map_of_mem
      (mem_passGroups_iff.mpr ⟨task, htask, hgroup⟩))
  exact (Partition.handedOver_run (hready.sound row.group) row hlocal hstartup
      node.name hname id hopening).mono hwithin

/-- A task starts on active nodes. -/
theorem AllReady.exists_node_of_startup (hready : AllReady prepared)
    {row : Task} (hrow : row ∈ tickRows prepared)
    (hstartup : row.processResult = .startup) {name : NodeName}
    (hname : name ∈ row.assignedNodes) :
    ∃ before ∈ prepared.workingSet.nodes, before.name = name := by
  obtain ⟨pass, frame, -, hsame, task, -, hruling⟩ := hready.ruled hrow
  obtain ⟨node, hnode, rfl⟩ := hruling.exists_node_of_startup hstartup hname
  obtain ⟨before, hbefore, hvacated⟩ :=
    exists_vacated_of_mem hsame (mem_nodes_groupPartition_iff.mp hnode).1
  exact ⟨before, hbefore, Node.name_eq_of_vacated hvacated⟩

/-- A task that keeps running occupied its nodes before. -/
theorem AllReady.working_of_kept (hready : AllReady prepared) {row : Task}
    (hrow : row ∈ tickRows prepared) (hkept : row.processResult = .keepRunning)
    {before : Node} (hbefore : before ∈ prepared.workingSet.nodes)
    (hname : before.name ∈ row.assignedNodes) :
    before.working = some row.id := by
  obtain ⟨pass, frame, -, -, task, htask, hruling⟩ := hready.ruled hrow
  have hholding : row.isHolding := by
    simp [Task.isHolding, hkept, Decision.holds]
  rcases hruling.kept_or_started hholding with
    ⟨hscheduled, hrunning, rfl⟩ | ⟨chosen, -, -, -, -, -, rfl⟩
  · exact ((hready pass).undisputed task htask hscheduled hrunning before
      hbefore hname).1
  · cases hkept

end Passes

section Schedule

variable (snapshot : Snapshot) (config : EngineConfig)

/-- The occupancy that a tick starts from. -/
def initialOccupancy : Occupancy := .ofNodes (workingSet snapshot config).nodes

theorem initialOccupancy_iff {name : NodeName} {id : TaskId} :
    initialOccupancy snapshot config name = some id ↔
      ∃ node ∈ (workingSet snapshot config).nodes, node.name = name ∧
        node.working = some id :=
  Occupancy.ofNodes_eq_some_iff (OrderedMap.nodup_map_of_ordered
    (consistent_workingSet snapshot config).nodeOrder)

/-- A task that loses a node in the validation pass is suspended there. -/
theorem exists_suspended_of_freed {before between : Node}
    (hbefore : before ∈ (workingSet snapshot config).nodes)
    (hbetween : between ∈
      frameAfter (prepare snapshot config) .validation
        (workingSet snapshot config).nodes)
    (hname : between.name = before.name) {id : TaskId}
    (hworking : before.working = some id) (hlost : between.working ≠ some id) :
    ∃ row ∈ passRows (prepare snapshot config) .validation
        (workingSet snapshot config).nodes,
      row.id = id ∧ row.processResult = .suspend := by
  have hready := allReady_prepare snapshot config
  rw [Ne, (hready .validation).working_frameAfter_iff hbetween, not_or] at hlost
  obtain ⟨hnotHeld, hdecided⟩ := hlost
  obtain ⟨validated, hvalidated, hid, -⟩ :
      ∃ validated ∈ passRows (prepare snapshot config) .validation
          (prepare snapshot config).workingSet.nodes,
        validated.id = id ∧ validated.group = between.group := by
    by_contra hnone
    push Not at hnone
    exact hdecided ⟨hnone, before, hbefore, hname.symm, hworking⟩
  obtain ⟨row, hrow, hrowId, hlisted, hanswer⟩ :=
    exists_row_of_occupant snapshot config hbefore hworking
  obtain rfl : row = validated := hready.row_unique hrow
    (List.mem_append_left _ hvalidated) (hrowId.trans hid.symm)
  rcases hanswer with hholding | hsuspended
  · exact absurd ⟨row, hvalidated, hid, hholding, hname ▸ hlisted⟩ hnotHeld
  · exact ⟨row, hvalidated, hid, hsuspended⟩

/-- Whoever occupied a node before the tick is suspended before another task
starts on it.  If the validation pass has freed the node for a training task,
the suspension is among the rows of validation, which come first. -/
theorem suspendedBefore_tickRows {row : Task}
    (hrow : row ∈ tickRows (prepare snapshot config))
    (hstartup : row.processResult = .startup) {before : Node}
    (hbefore : before ∈ (workingSet snapshot config).nodes)
    (hname : before.name ∈ row.assignedNodes) {id : TaskId}
    (hworking : before.working = some id) :
    SuspendedBefore (tickRows (prepare snapshot config)) id row := by
  have hready := allReady_prepare snapshot config
  rcases List.mem_append.mp hrow with hvalidated | htrained
  · exact ((hready .validation).suspendedBefore hvalidated hstartup hbefore
        hname hworking).mono (List.sublist_append_left _ _)
  · obtain ⟨between, hbetween, hvacated⟩ :=
      exists_vacated_of_mem (hready .validation).vacated_frameAfter.symm hbefore
    have hsameName : between.name = before.name :=
      Node.name_eq_of_vacated hvacated
    by_cases hstays : between.working = some id
    · rw [← hsameName] at hname
      exact (hready.training.suspendedBefore htrained hstartup hbetween hname
          hstays).mono (List.sublist_append_right _ _)
    · obtain ⟨suspended, hsuspended, rfl, hresult⟩ :=
        exists_suspended_of_freed snapshot config hbefore hbetween hsameName
          hworking hstays
      exact suspendedBefore_append hsuspended hresult htrained

theorem replayable_tickRows :
    Replayable (initialOccupancy snapshot config)
      (tickRows (prepare snapshot config)) where
  ids := (allReady_prepare snapshot config).nodup_tickRows
  apart := by
    intro left hleft right hright hleftStartup hrightStartup name hleftName
      hrightName
    have hready := allReady_prepare snapshot config
    obtain ⟨before, hbefore, rfl⟩ :=
      hready.exists_node_of_startup hleft hleftStartup hleftName
    exact hready.holder_unique hleft hright
      (by simp [Task.isHolding, hleftStartup, Decision.holds])
      (by simp [Task.isHolding, hrightStartup, Decision.holds]) hbefore
      hleftName hrightName
  handedOver := by
    intro row hrow hstartup name hname id hinitial
    obtain ⟨before, hbefore, rfl, hworking⟩ :=
      (initialOccupancy_iff snapshot config).mp hinitial
    exact suspendedBefore_tickRows snapshot config hrow hstartup hbefore hname
      hworking

/-- In the end the nodes are occupied by the tasks whose rows hold them. -/
theorem occupiedBy_tickRows_iff {before : Node}
    (hbefore : before ∈ (workingSet snapshot config).nodes) {id : TaskId} :
    OccupiedBy (initialOccupancy snapshot config)
        (tickRows (prepare snapshot config)) before.name id ↔
      ∃ row ∈ tickRows (prepare snapshot config), row.id = id ∧ row.isHolding ∧
        before.name ∈ row.assignedNodes := by
  have hready := allReady_prepare snapshot config
  constructor
  · rintro (⟨row, hrow, hstartup, hid, hname⟩ | ⟨hinitial, hkept⟩)
    · exact ⟨row, hrow, hid, by simp [Task.isHolding, hstartup, Decision.holds],
        hname⟩
    · obtain ⟨node, hnode, hname, hworking⟩ :=
        (initialOccupancy_iff snapshot config).mp hinitial
      obtain ⟨row, hrow, hid, hlisted, hholding | hsuspended⟩ :=
        exists_row_of_occupant snapshot config hnode hworking
      · exact ⟨row, hrow, hid, hholding, hname ▸ hlisted⟩
      · exact absurd hsuspended (hkept row hrow hid)
  · rintro ⟨row, hrow, rfl, hholding, hname⟩
    cases hresult : row.processResult with
    | startup => exact Or.inl ⟨row, hrow, hresult, rfl, hname⟩
    | keepRunning =>
      refine Or.inr
        ⟨(initialOccupancy_iff snapshot config).mpr ⟨before, hbefore, rfl,
            hready.working_of_kept hrow hresult hbefore hname⟩, ?_⟩
      intro other hother hid
      simp [hready.row_unique hother hrow hid, hresult]
    | suspend => simp [Task.isHolding, hresult, Decision.holds] at hholding
    | notSure => simp [Task.isHolding, hresult, Decision.holds] at hholding

variable (decidedAt : Instant)

/-- The projected rows are the revised ones. -/
theorem project_schedule :
    (schedule snapshot config decidedAt).assignment.project snapshot =
      snapshot.tasks.map (revision snapshot config decidedAt).change :=
  (relates_following snapshot config decidedAt).tasks

/-- The tasks of the working set are the rows of the snapshot, if no two of
these are rows of one task. -/
theorem exists_row_task_iff (hids : (snapshot.tasks.map Task.id).Nodup)
    {row : Task} :
    (∃ task ∈ snapshot.tasks,
        WorkingSet.normalizeTask config.defaultGroup task = row) ↔
      ∃ prepared ∈ (workingSet snapshot config).tasks, prepared.task = row := by
  rw [← List.mem_map, ← WorkingSet.distinctTasks_of_nodup hids]
  constructor
  · exact exists_prepared_of_mem snapshot config
  · rintro ⟨prepared, hprepared, rfl⟩
    exact WorkingSet.mem_ofSnapshot_tasks snapshot config.defaultGroup hprepared

/-- A projected row holds nodes as the decided row does. -/
theorem change_holds_iff {task : Task} {prepared : PreparedTask}
    (hprepared : prepared ∈ (workingSet snapshot config).tasks)
    (hsame : WorkingSet.normalizeTask config.defaultGroup task = prepared.task)
    {name : NodeName} :
    (((revision snapshot config decidedAt).change task).isScheduled ∧
        name ∈
          ((revision snapshot config decidedAt).change task).assignedNodes) ↔
      ∃ row ∈ tickRows (prepare snapshot config), row.id = task.id ∧
        row.isHolding ∧ name ∈ row.assignedNodes := by
  have hid : prepared.id = task.id := by
    rw [PreparedTask.id, ← hsame, WorkingSet.id_normalizeTask]
  rw [isScheduled_change_raw_iff snapshot config decidedAt hprepared hsame,
    ← hid]
  constructor
  · rintro ⟨⟨row, hrow, hrowId, hholding⟩, hname⟩
    rw [assignedNodes_change_raw snapshot config decidedAt hprepared hsame hrow
      hrowId hholding] at hname
    exact ⟨row, hrow, hrowId, hholding, hname⟩
  · rintro ⟨row, hrow, hrowId, hholding, hname⟩
    rw [assignedNodes_change_raw snapshot config decidedAt hprepared hsame hrow
      hrowId hholding]
    exact ⟨⟨row, hrow, hrowId, hholding⟩, hname⟩

theorem exists_project_iff (hids : (snapshot.tasks.map Task.id).Nodup)
    {id : TaskId} {name : NodeName} :
    (∃ row ∈ (schedule snapshot config decidedAt).assignment.project snapshot,
        row.id = id ∧ row.isScheduled ∧ name ∈ row.assignedNodes) ↔
      ∃ row ∈ tickRows (prepare snapshot config), row.id = id ∧ row.isHolding ∧
        name ∈ row.assignedNodes := by
  rw [project_schedule]
  constructor
  · rintro ⟨row, hrow, rfl, hholds⟩
    obtain ⟨task, htask, rfl⟩ := List.mem_map.mp hrow
    obtain ⟨prepared, hprepared, hsame⟩ :=
      (exists_row_task_iff snapshot config hids).mp ⟨task, htask, rfl⟩
    rw [Revision.id_change]
    exact (change_holds_iff snapshot config decidedAt hprepared hsame.symm).mp
      hholds
  · rintro ⟨decided, hdecided, rfl, hholds⟩
    obtain ⟨pass, frame, -, -, prepared, hmatched, hruling⟩ :=
      (allReady_prepare snapshot config).ruled hdecided
    have hprepared := (mem_matchable_iff.mp hmatched).1
    obtain ⟨task, htask, hsame⟩ :=
      (exists_row_task_iff snapshot config hids).mpr ⟨prepared, hprepared, rfl⟩
    have hid : decided.id = task.id := by
      rw [← WorkingSet.id_normalizeTask config.defaultGroup task, hsame]
      exact hruling.id_eq
    refine ⟨_, List.mem_map_of_mem htask, ?_,
      (change_holds_iff snapshot config decidedAt hprepared hsame).mpr
        ⟨decided, hdecided, hid, hholds⟩⟩
    rw [Revision.id_change, hid]

/-- The intents of a tick can be carried out in their order, and lead to the
occupancy of the projected rows. -/
theorem replay_intents_schedule (hids : (snapshot.tasks.map Task.id).Nodup) :
    (initialOccupancy snapshot config).EnactsInOrder
        (schedule snapshot config decidedAt).assignment.intents.intents ∧
      ∀ node ∈ WorkingSet.activeNodes snapshot config.defaultGroup, ∀ id,
        (initialOccupancy snapshot config).replay
              (schedule snapshot config decidedAt).assignment.intents.intents
              node.name = some id ↔
          ∃ row ∈ (schedule snapshot config decidedAt).assignment.project
              snapshot,
            row.id = id ∧ row.isScheduled ∧ node.name ∈ row.assignedNodes := by
  have hreplayable := replayable_tickRows snapshot config
  have hintents :
      (schedule snapshot config decidedAt).assignment.intents.intents =
        (tickRows (prepare snapshot config)).filterMap Assignment.intent? := by
    rw [Assignment.intents, schedule_tasks]
  rw [hintents]
  refine ⟨hreplayable.enactsInOrder, fun node hnode id => ?_⟩
  have hwhole : Replayable (initialOccupancy snapshot config)
      (tickRows (prepare snapshot config) ++ []) := by rwa [List.append_nil]
  obtain ⟨before, hbefore, hname⟩ :
      ∃ before ∈ (workingSet snapshot config).nodes, before.name = node.name :=
    WorkingSet.exists_mem_ofSnapshot_nodes snapshot config.defaultGroup hnode
  rw [exists_project_iff snapshot config decidedAt hids, ← hname,
    ← occupiedBy_tickRows_iff snapshot config hbefore]
  exact hwhole.replayRows_iff before.name id

/-- The urgent task takes the node over: the suspension comes first, and the
replay leaves the node to the urgent task. -/
theorem replay_intents_urgentTask :
    (urgentTask.tasks.map Task.id).Nodup ∧
      (schedule urgentTask {} default).assignment.intents.intents.map
          (fun intent => (intent.kind, intent.taskId)) =
        [(.suspend, ⟨1⟩), (.startup, ⟨2⟩)] ∧
      initialOccupancy urgentTask {} ⟨"n1"⟩ = some ⟨1⟩ ∧
      (initialOccupancy urgentTask {}).EnactsInOrder
        (schedule urgentTask {} default).assignment.intents.intents ∧
      ∀ node ∈ WorkingSet.activeNodes urgentTask ⟨"default"⟩, ∀ id,
        (initialOccupancy urgentTask {}).replay
              (schedule urgentTask {} default).assignment.intents.intents
              node.name = some id ↔
          ∃ row ∈ (schedule urgentTask {} default).assignment.project
              urgentTask,
            row.id = id ∧ row.isScheduled ∧ node.name ∈ row.assignedNodes :=
  ⟨by decide +kernel, by decide +kernel, by decide +kernel,
    replay_intents_schedule urgentTask {} default (by decide +kernel)⟩

end Schedule

end Tick

end ClusterTick
