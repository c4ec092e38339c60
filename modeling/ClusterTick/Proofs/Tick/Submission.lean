import ClusterTick.Proofs.Rules.Answers
import ClusterTick.Proofs.Tick.Share

/-!
# Submissions

A submission adds queued rows to a snapshot, with new ids and on new chains.  It
takes no node and no chain from the tasks that were there, so what a tick
derives from their rows stays the same, and so does every answer on them but for
those of the quota walk over all tasks.  That walk answers alike for the buckets
that nothing is added to.
-/

namespace ClusterTick

/-- The second snapshot is the first one with extra queued rows at any places
among its tasks.  Their ids are new and distinct, and no row of the first
snapshot is on one of their chains. -/
structure Submission (before after : Snapshot) (extra : List Task) : Prop where
  rest : { after with tasks := before.tasks } = before
  order : before.tasks.Sublist after.tasks
  rows : after.tasks.Perm (before.tasks ++ extra)
  queued : ∀ row ∈ extra, row.isQueued
  ids : (extra.map Task.id).Nodup
  freshIds : ∀ row ∈ extra, row.id ∉ before.tasks.map Task.id
  freshChains : ∀ row ∈ extra, row.chainId ∉ before.tasks.map Task.chainId

/-- The second working set is the first one with extra queued tasks. -/
structure WorkingSet.Gains (before after : WorkingSet) (extra : List TaskId) :
    Prop where
  valid : after.valid = before.valid
  nodes : after.nodes = before.nodes
  users : after.users = before.users
  conflicts : after.conflicts = before.conflicts
  ids : (after.tasks.map PreparedTask.id).Nodup
  tasks : before.tasks = after.tasks.filter fun task => task.id ∉ extra
  queued : ∀ task ∈ after.tasks, task.id ∈ extra → task.task.isQueued
  chains : ∀ task ∈ after.tasks, task.id ∈ extra →
    ∀ other ∈ before.tasks, task.task.chainId ≠ other.task.chainId

/-- Whether a quota walk comes to a task before the queued tasks of at most the
given priority. -/
def PreparedTask.isAhead (priority : Int32) (task : PreparedTask) : Bool :=
  task.task.isScheduled || priority < task.effectivePriority

theorem PreparedTask.isAhead_of_compareWalk {priority : Int32}
    {left right : PreparedTask}
    (hordered : (QuotaAdmission.compareWalk left right).isLE)
    (hright : right.isAhead priority) : left.isAhead priority := by
  simp only [QuotaAdmission.compareWalk, compareRank,
    Ordering.isLE_then_iff_and] at hordered
  obtain ⟨⟨hstatus, hrank⟩, -⟩ := hordered
  rw [isAhead, Bool.or_eq_true, decide_eq_true_eq] at hright ⊢
  rcases hright with hscheduled | habove
  · rw [hscheduled] at hstatus
    cases hleft : left.task.isScheduled with
    | true => exact Or.inl rfl
    | false =>
      rw [hleft] at hstatus
      cases hstatus
  · cases hleft : left.task.isScheduled with
    | true => exact Or.inl rfl
    | false =>
      rcases hrank with hfirst | ⟨hle, -⟩
      · rw [hleft] at hfirst
        cases hscheduled : right.task.isScheduled <;>
          rw [hscheduled] at hfirst <;> cases hfirst
      · rw [Std.isLE_compare] at hle
        exact Or.inr (Int32.lt_of_lt_of_le habove hle)

namespace Submission

variable {before after : Snapshot} {extra : List Task}

/-- Rows may be added at the end. -/
theorem append {snapshot : Snapshot} (hqueued : ∀ row ∈ extra, row.isQueued)
    (hids : (extra.map Task.id).Nodup)
    (hfreshIds : ∀ row ∈ extra, row.id ∉ snapshot.tasks.map Task.id)
    (hfreshChains : ∀ row ∈ extra,
      row.chainId ∉ snapshot.tasks.map Task.chainId) :
    Submission snapshot { snapshot with tasks := snapshot.tasks ++ extra }
      extra where
  rest := rfl
  order := List.sublist_append_left _ _
  rows := List.Perm.refl _
  queued := hqueued
  ids := hids
  freshIds := hfreshIds
  freshChains := hfreshChains

section Rows

variable (hsubmission : Submission before after extra)

include hsubmission

private theorem valid_eq : after.valid = before.valid := by
  rw [← hsubmission.rest]

private theorem nodes_eq : after.nodes = before.nodes := by
  rw [← hsubmission.rest]

private theorem users_eq : after.users = before.users := by
  rw [← hsubmission.rest]

private theorem mem_extra_of_id {row : Task} (hrow : row ∈ after.tasks)
    (hid : row.id ∈ extra.map Task.id) : row ∈ extra := by
  rcases List.mem_append.mp (hsubmission.rows.subset hrow) with hbefore | hextra
  · obtain ⟨other, hother, hsame⟩ := List.mem_map.mp hid
    exact absurd (hsame ▸ List.mem_map_of_mem hbefore)
      (hsubmission.freshIds other hother)
  · exact hextra

/-- Without the extra rows the snapshot is what it was. -/
theorem tasks_eq :
    before.tasks =
      after.tasks.filter fun row => row.id ∉ extra.map Task.id := by
  have hkept : before.tasks.filter (fun row => row.id ∉ extra.map Task.id) =
      before.tasks := by
    rw [List.filter_eq_self]
    intro row hrow
    rw [decide_eq_true_eq]
    intro hid
    obtain ⟨other, hother, hsame⟩ := List.mem_map.mp hid
    exact hsubmission.freshIds other hother (hsame ▸ List.mem_map_of_mem hrow)
  have hdropped :
      extra.filter (fun row => row.id ∉ extra.map Task.id) = [] := by
    rw [List.filter_eq_nil_iff]
    intro row hrow
    simpa using ⟨row, hrow, rfl⟩
  have hsublist :=
    hsubmission.order.filter fun row => row.id ∉ extra.map Task.id
  have hperm := hsubmission.rows.filter fun row => row.id ∉ extra.map Task.id
  rw [List.filter_append, hkept, hdropped, List.append_nil] at hperm
  rw [hkept] at hsublist
  exact hsublist.eq_of_length hperm.length_eq.symm

theorem distinctTasks_eq (defaultGroup : GroupName) :
    WorkingSet.distinctTasks before defaultGroup =
      (WorkingSet.distinctTasks after defaultGroup).filter fun task =>
        task.id ∉ extra.map Task.id := by
  rw [WorkingSet.distinctTasks, hsubmission.tasks_eq, WorkingSet.distinctTasks,
    List.filter_map]
  exact congrArg _
    (keepFirst_filter (fun id => decide (id ∉ extra.map Task.id)) after.tasks)

/-- A task with one of the new ids is one of the new rows. -/
theorem exists_extra {defaultGroup : GroupName} {task : Task}
    (htask : task ∈ WorkingSet.distinctTasks after defaultGroup)
    (hid : task.id ∈ extra.map Task.id) :
    ∃ row ∈ extra, task = WorkingSet.normalizeTask defaultGroup row := by
  obtain ⟨row, hrow, rfl⟩ := List.mem_map.mp htask
  exact ⟨row, hsubmission.mem_extra_of_id (mem_of_mem_keepFirst hrow) hid, rfl⟩

theorem isScheduled_of_extra {defaultGroup : GroupName} {task : Task}
    (htask : task ∈ WorkingSet.distinctTasks after defaultGroup)
    (hid : task.id ∈ extra.map Task.id) : task.isScheduled = false := by
  obtain ⟨row, hrow, rfl⟩ := hsubmission.exists_extra htask hid
  exact Task.isScheduled_eq_false_of_isQueued (hsubmission.queued row hrow)

theorem chainId_of_extra {defaultGroup : GroupName} {task other : Task}
    (htask : task ∈ WorkingSet.distinctTasks after defaultGroup)
    (hid : task.id ∈ extra.map Task.id)
    (hother : other ∈ WorkingSet.distinctTasks before defaultGroup) :
    task.chainId ≠ other.chainId := by
  obtain ⟨row, hrow, rfl⟩ := hsubmission.exists_extra htask hid
  obtain ⟨listed, hlisted, rfl⟩ := List.mem_map.mp hother
  intro hchain
  apply hsubmission.freshChains row hrow
  exact List.mem_map.mpr ⟨listed, mem_of_mem_keepFirst hlisted, hchain.symm⟩

/-- A choice that leaves out the extra tasks is one among the others. -/
theorem filter_distinctTasks {defaultGroup : GroupName} {keep : Task → Bool}
    (hextra : ∀ task ∈ WorkingSet.distinctTasks after defaultGroup,
      task.id ∈ extra.map Task.id → keep task = false) :
    (WorkingSet.distinctTasks before defaultGroup).filter keep =
      (WorkingSet.distinctTasks after defaultGroup).filter keep := by
  rw [hsubmission.distinctTasks_eq, List.filter_filter]
  refine List.filter_congr fun task htask => ?_
  by_cases hid : task.id ∈ extra.map Task.id
  · simp [hextra task htask hid]
  · simp [hid]

/-- The extra tasks claim nothing. -/
theorem claims_eq (nodes : List Node) (defaultGroup : GroupName) :
    NodeClaims.ofTasks nodes (WorkingSet.distinctTasks after defaultGroup) =
      NodeClaims.ofTasks nodes
        (WorkingSet.distinctTasks before defaultGroup) := by
  rw [NodeClaims.ofTasks, NodeClaims.ofTasks, hsubmission.filter_distinctTasks]
  exact fun task htask hid => hsubmission.isScheduled_of_extra htask hid

theorem activeNodes_eq (defaultGroup : GroupName) :
    WorkingSet.activeNodes after defaultGroup =
      WorkingSet.activeNodes before defaultGroup := by
  rw [WorkingSet.activeNodes, hsubmission.nodes_eq, WorkingSet.activeNodes]

/-- A task heads its chain exactly if it did before. -/
theorem isHeadAmong_eq {defaultGroup : GroupName} {task : Task}
    (htask : task ∈ WorkingSet.distinctTasks before defaultGroup) :
    WorkingSet.isHeadAmong (WorkingSet.distinctTasks after defaultGroup) task =
      WorkingSet.isHeadAmong (WorkingSet.distinctTasks before defaultGroup)
        task := by
  rw [WorkingSet.isHeadAmong, WorkingSet.isHeadAmong]
  congr 1
  rw [Bool.eq_iff_iff, List.all_eq_true, List.all_eq_true]
  constructor
  · intro hhead other hother
    rw [hsubmission.distinctTasks_eq] at hother
    exact hhead other (List.mem_of_mem_filter hother)
  · intro hhead other hother
    by_cases hid : other.id ∈ extra.map Task.id
    · simp [hsubmission.chainId_of_extra hother hid htask]
    · apply hhead
      rw [hsubmission.distinctTasks_eq]
      exact List.mem_filter.mpr ⟨hother, by simpa using hid⟩

end Rows

section Sets

variable (hsubmission : Submission before after extra) (config : EngineConfig)

include hsubmission

/-- A task of the working set with one of the new ids is one of the new rows. -/
theorem exists_extra_of_id {task : PreparedTask}
    (htask : task ∈ (Tick.workingSet after config).tasks)
    (hid : task.id ∈ extra.map Task.id) :
    ∃ row ∈ extra,
      task.task = WorkingSet.normalizeTask config.defaultGroup row :=
  hsubmission.exists_extra
    (WorkingSet.mem_ofSnapshot_tasks after config.defaultGroup htask) hid

theorem users_workingSet :
    (Tick.workingSet after config).users =
      (Tick.workingSet before config).users := by
  simp only [Tick.workingSet, WorkingSet.ofSnapshot, hsubmission.activeNodes_eq,
    hsubmission.claims_eq, hsubmission.users_eq]

/-- The working set has the extra tasks and the tasks from before, as they
were. -/
theorem tasks_workingSet :
    (Tick.workingSet before config).tasks =
      (Tick.workingSet after config).tasks.filter fun task =>
        task.id ∉ extra.map Task.id := by
  rw [Tick.tasks_workingSet, Tick.tasks_workingSet, List.filter_map,
    hsubmission.users_workingSet]
  have hids : (fun task => decide (task.id ∉ extra.map Task.id)) ∘
      WorkingSet.derive (Tick.workingSet before config).users
        (WorkingSet.distinctTasks after config.defaultGroup) =
          fun task => decide (task.id ∉ extra.map Task.id) := rfl
  rw [hids, ← hsubmission.distinctTasks_eq]
  refine List.map_congr_left fun task htask => ?_
  rw [WorkingSet.derive, WorkingSet.derive, hsubmission.isHeadAmong_eq htask]

theorem conflicts_workingSet :
    (Tick.workingSet after config).conflicts =
      (Tick.workingSet before config).conflicts := by
  simp only [Tick.workingSet, WorkingSet.ofSnapshot, hsubmission.activeNodes_eq,
    hsubmission.claims_eq]

/-- The working set gains the extra tasks and nothing else. -/
theorem gains :
    (Tick.workingSet before config).Gains (Tick.workingSet after config)
      (extra.map Task.id) where
  valid := by
    simp only [Tick.workingSet, WorkingSet.ofSnapshot, hsubmission.valid_eq]
  nodes := by
    simp only [Tick.workingSet, WorkingSet.ofSnapshot,
      hsubmission.activeNodes_eq, hsubmission.claims_eq]
  users := hsubmission.users_workingSet config
  conflicts := hsubmission.conflicts_workingSet config
  ids := (Tick.consistent_workingSet after config).taskIds
  tasks := hsubmission.tasks_workingSet config
  queued := by
    intro task htask hid
    obtain ⟨row, hrow, hsame⟩ := hsubmission.exists_extra_of_id config htask hid
    rw [hsame]
    exact hsubmission.queued row hrow
  chains := by
    intro task htask hid other hother
    exact hsubmission.chainId_of_extra
      (WorkingSet.mem_ofSnapshot_tasks after config.defaultGroup htask) hid
      (WorkingSet.mem_ofSnapshot_tasks before config.defaultGroup hother)

end Sets

end Submission

namespace WorkingSet.Gains

/-! ## What the rules answer on the tasks that were there -/

variable {before after : WorkingSet} {extra : List TaskId}
  {sizes : PartitionSizes}
variable {task : PreparedTask} (hgains : before.Gains after extra)

include hgains

theorem mem_iff :
    task ∈ before.tasks ↔ task ∈ after.tasks ∧ task.id ∉ extra := by
  rw [hgains.tasks, List.mem_filter, decide_eq_true_eq]

theorem ids_before : (before.tasks.map PreparedTask.id).Nodup := by
  rw [hgains.tasks]
  exact hgains.ids.sublist (List.filter_sublist.map _)

/-- A choice that leaves out the extra tasks is one among the others. -/
theorem filter_eq {keep : PreparedTask → Bool}
    (hextra : ∀ task ∈ after.tasks, task.id ∈ extra → keep task = false) :
    before.tasks.filter keep = after.tasks.filter keep := by
  rw [hgains.tasks, List.filter_filter]
  refine List.filter_congr fun task htask => ?_
  by_cases hid : task.id ∈ extra
  · simp [hextra task htask hid]
  · simp [hid]

theorem isScheduled_of_extra (htask : task ∈ after.tasks)
    (hid : task.id ∈ extra) : task.task.isScheduled = false :=
  Task.isScheduled_eq_false_of_isQueued (hgains.queued task htask hid)

private theorem groupSize_eq : after.groupSize = before.groupSize :=
  groupSize_congr (congrArg _ hgains.nodes)

/-- The walk over the scheduled tasks stays as it is. -/
theorem walk_scheduled : QuotaAdmission.walk after sizes .scheduled =
    QuotaAdmission.walk before sizes .scheduled := by
  have hwalked : QuotaAdmission.walked after .scheduled =
      QuotaAdmission.walked before .scheduled := by
    symm
    apply hgains.filter_eq
    intro task htask hid
    simp [WalkScope.includes, hgains.isScheduled_of_extra htask hid]
  simp only [QuotaAdmission.walk, hwalked]
  congr 2
  funext bucket
  simp only [QuotaAdmission.bucketChecks, hgains.users]

theorem runningAttempt?_eq :
    runningAttempt? after = runningAttempt? before := by
  funext chain
  rw [runningAttempt?, runningAttempt?, ← List.head?_filter,
    ← List.head?_filter, List.filter_reverse, List.filter_reverse,
    hgains.filter_eq]
  intro task htask hid
  simp [hgains.isScheduled_of_extra htask hid]

/-- The head of a chain that was there stays its head. -/
theorem chainHeads_get?_eq (htask : task ∈ before.tasks) :
    after.chainHeads.get? task.task.chainId =
      before.chainHeads.get? task.task.chainId := by
  apply OrderedMap.get?_ofList_congr
  simp only [List.filter_map, List.filter_filter]
  rw [hgains.filter_eq]
  intro other hother hid
  simp [hgains.chains other hother hid task htask]

theorem keepRunningCheck_eq (htask : task ∈ before.tasks)
    (entitled : RuleVerdict) :
    keepRunningCheck after entitled task =
      keepRunningCheck before entitled task := by
  simp only [keepRunningCheck, hgains.conflicts,
    hgains.chainHeads_get?_eq htask]

theorem startCheck_eq : startCheck after = startCheck before := by
  funext task
  simp only [startCheck, hgains.users, hgains.runningAttempt?_eq]

/-- A bucket that gains nothing is walked as before. -/
theorem bucketVerdict_eq {scope : WalkScope} {bucket : QuotaBucket}
    (hextra : ∀ task ∈ after.tasks, task.id ∈ extra →
      QuotaBucket.ofTask task ≠ bucket) :
    QuotaAdmission.bucketVerdict after sizes scope bucket =
      QuotaAdmission.bucketVerdict before sizes scope bucket := by
  have hmembers : QuotaAdmission.bucketMembers after scope bucket =
      QuotaAdmission.bucketMembers before scope bucket := by
    simp only [QuotaAdmission.bucketMembers, QuotaAdmission.walked,
      List.filter_filter]
    symm
    apply hgains.filter_eq
    intro task htask hid
    simp [hextra task htask hid]
  simp only [QuotaAdmission.bucketVerdict, QuotaAdmission.bucketChecks_eq,
    QuotaAdmission.bucketTasks, hmembers, hgains.users]

/-- The quota walk answers alike on the tasks of buckets that gain nothing. -/
theorem check_withinLimits_of_bucket (htask : task ∈ before.tasks)
    (hextra : ∀ other ∈ after.tasks, other.id ∈ extra →
      QuotaBucket.ofTask other ≠ QuotaBucket.ofTask task) :
    (withinLimits after sizes).check task.id =
      (withinLimits before sizes).check task.id := by
  rw [withinLimits, withinLimits,
    QuotaAdmission.check_walk hgains.ids (hgains.mem_iff.mp htask).1,
    QuotaAdmission.check_walk hgains.ids_before htask,
    hgains.bucketVerdict_eq hextra]

/-- The quota walk answers alike on the tasks that it comes to before the extra
ones. -/
theorem check_withinLimits_eq {priority : Int32}
    (hbelow : ∀ task ∈ after.tasks, task.id ∈ extra →
      task.effectivePriority ≤ priority)
    (htask : task ∈ before.tasks) (hahead : task.isAhead priority) :
    (withinLimits after sizes).check task.id =
      (withinLimits before sizes).check task.id := by
  have hmem := (hgains.mem_iff.mp htask).1
  -- Both walks are cut to the tasks ahead, and there they are the same.
  have hwalked :
      (QuotaAdmission.walked after .all).filter
          (PreparedTask.isAhead priority) =
        (QuotaAdmission.walked before .all).filter
          (PreparedTask.isAhead priority) := by
    rw [QuotaAdmission.walked, QuotaAdmission.walked, List.filter_filter,
      List.filter_filter, hgains.filter_eq]
    intro other hother hid
    have hnot : ¬ priority < other.effectivePriority :=
      Int32.not_lt.mpr (hbelow other hother hid)
    simp [PreparedTask.isAhead, hgains.isScheduled_of_extra hother hid, hnot]
  have hchecks : ∀ walked bucket,
      QuotaAdmission.bucketChecks after sizes walked bucket =
        QuotaAdmission.bucketChecks before sizes walked bucket := by
    intro walked bucket
    simp only [QuotaAdmission.bucketChecks, hgains.users]
  rw [withinLimits, withinLimits, QuotaAdmission.check_walk hgains.ids hmem,
    QuotaAdmission.check_walk hgains.ids_before htask]
  apply RuleVerdict.check_ofChecks_congr
    (QuotaAdmission.nodup_bucketChecks hgains.ids)
    (QuotaAdmission.nodup_bucketChecks hgains.ids_before)
  intro check
  rw [← QuotaAdmission.mem_bucketChecks_filter_iff hgains.ids
      (fun _ _ => PreparedTask.isAhead_of_compareWalk) hmem hahead,
    ← QuotaAdmission.mem_bucketChecks_filter_iff hgains.ids_before
      (fun _ _ => PreparedTask.isAhead_of_compareWalk) htask hahead, hwalked,
    hchecks]

/-- The verdicts on a task that was there differ in what the quota walk says at
most. -/
theorem forTask_eq (htask : task ∈ before.tasks)
    (hquota : (withinLimits after before.groupSize).check task.id =
      (withinLimits before before.groupSize).check task.id) :
    (Verdicts.evaluate after).forTask task.id =
      (Verdicts.evaluate before).forTask task.id := by
  have hmem := (hgains.mem_iff.mp htask).1
  simp only [Verdicts.forTask, Verdicts.evaluate, Verdicts.under,
    hgains.groupSize_eq, hquota, check_mayKeepRunning hgains.ids hmem,
    check_mayKeepRunning hgains.ids_before htask,
    check_mayStart hgains.ids hmem, check_mayStart hgains.ids_before htask,
    hgains.walk_scheduled, hgains.keepRunningCheck_eq htask,
    hgains.startCheck_eq]

/-! ## What a pass over a group is given -/

variable {pass : MatchPass} {earlier later : List Node} {group : GroupName}

/-- A pass over a group decides on the same of the tasks that are chosen, if no
extra task is among them and they get the same verdicts. -/
theorem filter_decided_eq (keep : PreparedTask → Bool)
    (hextra : ∀ task ∈ after.tasks, task.id ∈ extra → pass.includes task.task →
      task.group = group → keep task = false)
    (hverdict : ∀ task ∈ Tick.matchable before pass, task.group = group →
      keep task →
      (Verdicts.evaluate after).forTask task.id =
        (Verdicts.evaluate before).forTask task.id) :
    ((Tick.groupPartition ⟨after, Verdicts.evaluate after⟩ pass later
            group).decided pass).filter
        (fun candidate => keep candidate.prepared) =
      ((Tick.groupPartition ⟨before, Verdicts.evaluate before⟩ pass earlier
          group).decided
        pass).filter fun candidate => keep candidate.prepared := by
  have hkeep : ∀ set : WorkingSet,
      (fun candidate : Candidate => keep candidate.prepared) ∘
          Tick.candidateOf ⟨set, Verdicts.evaluate set⟩ = keep :=
    fun _ => rfl
  have hchosen :
      ((Tick.matchable after pass).filter fun task => task.group = group).filter
          keep =
        ((Tick.matchable before pass).filter fun task =>
            task.group = group).filter keep := by
    simp only [Tick.matchable, List.filter_filter]
    symm
    apply hgains.filter_eq
    intro task htask hid
    by_cases hgroup : task.group = group
    · cases hincludes : pass.includes task.task with
      | true => simp [hextra task htask hid hincludes hgroup]
      | false => simp
    · simp [hgroup]
  rw [Tick.decided_groupPartition, Tick.decided_groupPartition, List.filter_map,
    List.filter_map, hkeep, hkeep, hchosen]
  apply List.map_congr_left
  intro task htask
  obtain ⟨hmem, hkept⟩ := List.mem_filter.mp htask
  obtain ⟨hmatchable, hgroup⟩ := List.mem_filter.mp hmem
  rw [Tick.candidateOf, Tick.candidateOf,
    hverdict task hmatchable (of_decide_eq_true hgroup) hkept]

/-- A pass over a group that starts from the same nodes is the same if it gains
no task. -/
theorem groupPartition_eq
    (hextra : ∀ task ∈ after.tasks, task.id ∈ extra → pass.includes task.task →
      task.group ≠ group)
    (hverdict : ∀ task ∈ Tick.matchable before pass, task.group = group →
      (Verdicts.evaluate after).forTask task.id =
        (Verdicts.evaluate before).forTask task.id)
    (hframe : later.filter (fun node => node.group = group) =
      earlier.filter fun node => node.group = group) :
    Tick.groupPartition ⟨after, Verdicts.evaluate after⟩ pass later group =
      Tick.groupPartition ⟨before, Verdicts.evaluate before⟩ pass earlier
        group := by
  have hdecided :
      (Tick.groupPartition ⟨after, Verdicts.evaluate after⟩ pass later
            group).decided pass =
        (Tick.groupPartition ⟨before, Verdicts.evaluate before⟩ pass earlier
            group).decided pass := by
    rw [← List.filter_true ((Tick.groupPartition ⟨after, _⟩ _ _ _).decided _),
      ← List.filter_true ((Tick.groupPartition ⟨before, _⟩ _ _ _).decided _)]
    apply hgains.filter_decided_eq fun _ => true
    · intro task htask hid hincludes hgroup
      exact absurd hgroup (hextra task htask hid hincludes)
    · exact fun task htask hgroup _ => hverdict task htask hgroup
  rw [Tick.decided_groupPartition, Tick.decided_groupPartition] at hdecided
  rw [Partition.mk.injEq]
  exact ⟨rfl, hgains.valid, hframe, hdecided⟩

end WorkingSet.Gains

end ClusterTick
