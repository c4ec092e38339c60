import ClusterTick.Proofs.Tick.Enactment
import ClusterTick.Proofs.Tick.PreemptionSafety
import ClusterTick.Proofs.Tick.QuotaSafety

/-!
# A tick repairs its snapshot

However damaged a snapshot is, the one that follows an enacted tick is in order:
nothing is contested, every scheduled task may keep its nodes, and no chain
waits for an attempt of its own.  From there on, a running task loses its nodes
to more urgent tasks only.
-/

namespace ClusterTick

/-- A snapshot in which the rules find nothing to put right. -/
structure Snapshot.InOrder (snapshot : Snapshot) (config : EngineConfig) :
    Prop where
  undisputed :
    (Tick.prepare snapshot config).workingSet.conflicts.entries = [] ∧
      (Tick.prepare snapshot config).workingSet.stats.doubleBooked = 0
  noneDenied : (Tick.prepare snapshot config).verdicts.running.denied = []
  entitled : ∀ task ∈ (Tick.prepare snapshot config).workingSet.tasks,
    task.task.isScheduled →
    (Tick.prepare snapshot config).verdicts.running.check task.id = .approved
  handedOver : ∀ id running,
    (id, .chainAlreadyRunning running) ∉
      (Tick.prepare snapshot config).verdicts.waiting.denied
  /-- Whoever is suspended gives way to a task above it. -/
  outranked : ∀ decidedAt,
    ∀ victim ∈ (Tick.schedule snapshot config decidedAt).assignment.tasks,
    victim.processResult = .suspend →
    ∃ starter ∈ (Tick.schedule snapshot config decidedAt).assignment.tasks,
      victim.GivesWayTo (Tick.prepare snapshot config).workingSet.users starter

theorem RuleVerdict.passes_of_check {verdict : RuleVerdict} {id : TaskId}
    (happroved : verdict.check id = .approved) : verdict.passes id := by
  rw [check] at happroved
  split at happroved
  · assumption
  · cases happroved

namespace Tick

section Following

/-! ## The scheduled tasks after a tick -/

variable (snapshot : Snapshot) (config : EngineConfig) (decidedAt : Instant)

/-- A task that is scheduled after the tick is one whose row holds nodes. -/
theorem exists_row_of_scheduled {task : PreparedTask}
    (htask : task ∈
      (workingSet (following snapshot config decidedAt) config).tasks)
    (hscheduled : task.task.isScheduled) :
    ∃ before ∈ (workingSet snapshot config).tasks,
      (revision snapshot config decidedAt).prepared before = task ∧
      ∃ row ∈ tickRows (prepare snapshot config), row.id = task.id ∧
        row.isHolding ∧ task.task.assignedNodes = row.assignedNodes := by
  rw [tasks_following] at htask
  obtain ⟨before, hbefore, rfl⟩ := List.mem_map.mp htask
  rw [Revision.task_prepared] at hscheduled
  obtain ⟨row, hrow, hid, hholding⟩ :=
    (isScheduled_change_iff snapshot config decidedAt hbefore).mp hscheduled
  refine ⟨before, hbefore, rfl, row, hrow, ?_, hholding, ?_⟩
  · rw [hid, Revision.id_prepared]
  · rw [Revision.task_prepared]
    exact assignedNodes_change snapshot config decidedAt hbefore hrow hid
      hholding

private theorem exists_node_before {node : Node}
    (hnode : node ∈ WorkingSet.activeNodes (following snapshot config decidedAt)
      config.defaultGroup) :
    ∃ before ∈ (workingSet snapshot config).nodes, before.name = node.name := by
  have hground := (relates_following snapshot config decidedAt).ground
  obtain ⟨other, hother, hvacated⟩ :=
    exists_vacated_of_mem (hground.vacated_activeNodes config.defaultGroup)
      hnode
  rw [← Node.name_eq_of_vacated hvacated]
  exact WorkingSet.exists_mem_ofSnapshot_nodes snapshot config.defaultGroup
    hother

/-- After the tick no node is claimed twice. -/
theorem exclusive_following :
    WorkingSet.Exclusive
      (WorkingSet.activeNodes (following snapshot config decidedAt)
        config.defaultGroup)
      (WorkingSet.distinctTasks (following snapshot config decidedAt)
        config.defaultGroup) where
  apart := by
    intro left hleft right hright hleftScheduled hrightScheduled node hnode
      hleftListed hrightListed
    obtain ⟨first, hfirst, rfl⟩ := exists_prepared_of_mem _ config hleft
    obtain ⟨second, hsecond, rfl⟩ := exists_prepared_of_mem _ config hright
    obtain ⟨-, -, -, firstRow, hfirstRow, hfirstId, hfirstHolding,
        hfirstNodes⟩ :=
      exists_row_of_scheduled snapshot config decidedAt hfirst hleftScheduled
    obtain ⟨-, -, -, secondRow, hsecondRow, hsecondId, hsecondHolding,
        hsecondNodes⟩ :=
      exists_row_of_scheduled snapshot config decidedAt hsecond hrightScheduled
    obtain ⟨before, hbefore, hname⟩ :=
      exists_node_before snapshot config decidedAt hnode
    rw [hfirstNodes, ← hname] at hleftListed
    rw [hsecondNodes, ← hname] at hrightListed
    have hsame : firstRow = secondRow :=
      (allReady_prepare snapshot config).holder_unique hfirstRow hsecondRow
        hfirstHolding hsecondHolding hbefore hleftListed hrightListed
    exact hfirstId.symm.trans ((congrArg Task.id hsame).trans hsecondId)
  once := by
    intro task htask hscheduled node hnode hlisted
    obtain ⟨prepared, hprepared, rfl⟩ := exists_prepared_of_mem _ config htask
    obtain ⟨-, -, -, row, hrow, -, hholding, hnodes⟩ :=
      exists_row_of_scheduled snapshot config decidedAt hprepared hscheduled
    obtain ⟨before, hbefore, hname⟩ :=
      exists_node_before snapshot config decidedAt hnode
    rw [hnodes, ← hname] at hlisted ⊢
    exact (allReady_prepare snapshot config).listed_once hrow hholding hbefore
      hlisted

theorem undisputed_following :
    (workingSet (following snapshot config decidedAt)
          config).conflicts.entries = [] ∧
      (workingSet (following snapshot config decidedAt)
          config).stats.doubleBooked = 0 :=
  WorkingSet.conflicts_of_exclusive _ config.defaultGroup
    (exclusive_following snapshot config decidedAt)

/-- A task that is scheduled after the tick heads its chain, and was
admitted. -/
theorem admitted_before {task : PreparedTask}
    (htask : task ∈
      (workingSet (following snapshot config decidedAt) config).tasks)
    (hscheduled : task.task.isScheduled) :
    task.isChainHead ∧
      ∃ view,
        (workingSet snapshot config).users.get? task.task.userName = some view ∧
        ∃ before ∈ QuotaAdmission.admitted
            (QuotaAdmission.ceiling view (workingSet snapshot config).groupSize
              (QuotaBucket.ofTask task).slot)
            0
            (QuotaAdmission.bucketTasks (workingSet snapshot config) .all
              (QuotaBucket.ofTask task)),
          before.id = task.id ∧ before.task.nodes = task.task.nodes := by
  obtain ⟨before, hbefore, rfl, row, hrow, hid, hholding, -⟩ :=
    exists_row_of_scheduled snapshot config decidedAt htask hscheduled
  rw [Revision.id_prepared] at hid
  have hplan : ((revision snapshot config decidedAt).change before.task).plan =
      before.task.plan := (revision snapshot config decidedAt).plan before.task
  obtain ⟨hhead, view, hview, hadmitted⟩ :=
    admitted_of_holding snapshot config hbefore hrow hid hholding
  rw [Revision.ofTask_prepared, Revision.isChainHead_prepared,
    Revision.task_prepared, Task.userName_eq_of_plan hplan,
    Task.nodes_eq_of_plan hplan, Revision.id_prepared]
  exact ⟨hhead, view, hview, before, hadmitted, rfl, rfl⟩

/-- What is scheduled in a bucket after the tick was admitted to it before. -/
theorem sum_scheduled_le {bucket : QuotaBucket} {view : UserView}
    (hview : (workingSet snapshot config).users.get? bucket.user = some view) :
    ((QuotaAdmission.bucketTasks
        (workingSet (following snapshot config decidedAt) config) .scheduled
        bucket).map fun task => task.task.nodes.toNat).sum ≤
      ((QuotaAdmission.admitted
        (QuotaAdmission.ceiling view (workingSet snapshot config).groupSize
          bucket.slot)
        0
        (QuotaAdmission.bucketTasks (workingSet snapshot config) .all
            bucket)).map fun task =>
          task.task.nodes.toNat).sum := by
  apply QuotaAdmission.sum_amounts_le (QuotaAdmission.nodup_bucketTasks
    (consistent_workingSet (following snapshot config decidedAt) config).taskIds
    .scheduled)
  intro task htask
  obtain ⟨hmem, hscheduled, -, rfl⟩ :=
    QuotaAdmission.mem_bucketTasks_scheduled_iff.mp htask
  obtain ⟨-, other, hother, before, hbefore, hid, hnodes⟩ :=
    admitted_before snapshot config decidedAt hmem hscheduled
  obtain rfl : other = view := Option.some.inj (hother.symm.trans hview)
  exact ⟨before, hbefore, hid, congrArg UInt32.toNat hnodes⟩

/-- So the scheduled tasks of a bucket fit under its ceiling together. -/
theorem admitted_following {bucket : QuotaBucket} {view : UserView}
    (hview : (workingSet snapshot config).users.get? bucket.user = some view) :
    QuotaAdmission.admitted
        (QuotaAdmission.ceiling view (workingSet snapshot config).groupSize
          bucket.slot)
        0
        (QuotaAdmission.bucketTasks
          (workingSet (following snapshot config decidedAt) config) .scheduled
          bucket) =
      QuotaAdmission.bucketTasks
        (workingSet (following snapshot config decidedAt) config) .scheduled
        bucket := by
  apply QuotaAdmission.admitted_eq_self
  have hsum := sum_scheduled_le snapshot config decidedAt hview
  have hbound :=
    QuotaAdmission.min_sum_admitted_le
      (UInt32.zero_le : (0 : UInt32) ≤
        QuotaAdmission.ceiling view (workingSet snapshot config).groupSize
          bucket.slot)
      (QuotaAdmission.bucketTasks (workingSet snapshot config) .all bucket)
  rw [UInt32.toNat_zero, Nat.zero_add] at hbound ⊢
  exact Nat.le_trans (Nat.le_min.mpr ⟨Nat.le_trans (Nat.min_le_left _ _) hsum,
    Nat.min_le_right _ _⟩) hbound

/-- So every scheduled task is entitled to its nodes. -/
theorem walk_following {task : PreparedTask}
    (htask : task ∈
      (workingSet (following snapshot config decidedAt) config).tasks)
    (hscheduled : task.task.isScheduled) :
    (QuotaAdmission.walk
          (workingSet (following snapshot config decidedAt) config)
          (workingSet (following snapshot config decidedAt) config).groupSize
          .scheduled).check task.id = .approved := by
  have hrelates := relates_following snapshot config decidedAt
  obtain ⟨hhead, view, hview, -⟩ :=
    admitted_before snapshot config decidedAt htask hscheduled
  rw [QuotaAdmission.walk_approved_iff, hrelates.ground.users_eq config,
    hrelates.ground.groupSize_eq config]
  refine ⟨QuotaBucket.ofTask task, view, hview, List.mem_map_of_mem ?_⟩
  rw [admitted_following snapshot config decidedAt hview]
  exact QuotaAdmission.mem_bucketTasks_scheduled_iff.mpr
    ⟨htask, hscheduled, hhead, rfl⟩

private theorem keepRunningCheck_following {task : PreparedTask}
    (htask : task ∈
      (workingSet (following snapshot config decidedAt) config).tasks)
    (hscheduled : task.task.isScheduled) :
    keepRunningCheck (workingSet (following snapshot config decidedAt) config)
        (QuotaAdmission.walk
          (workingSet (following snapshot config decidedAt) config)
          (workingSet (following snapshot config decidedAt) config).groupSize
          .scheduled)
        task = .approved := by
  apply keepRunningCheck_of_entitled
  · rw [OrderedMap.get?_eq_none_iff,
      (undisputed_following snapshot config decidedAt).1]
    exact nofun
  · exact (admitted_before snapshot config decidedAt htask hscheduled).1
  · exact walk_following snapshot config decidedAt htask hscheduled

end Following

section Order

variable (snapshot : Snapshot) (config : EngineConfig) (decidedAt : Instant)

/-- The rules deny no scheduled task its nodes after a tick. -/
theorem running_following :
    (prepare (following snapshot config decidedAt)
          config).verdicts.running.denied = [] ∧
      ∀ task ∈ (workingSet (following snapshot config decidedAt) config).tasks,
        task.task.isScheduled →
        (prepare (following snapshot config decidedAt)
              config).verdicts.running.check task.id = .approved := by
  constructor
  · rw [List.eq_nil_iff_forall_not_mem]
    rintro ⟨id, denial⟩ hdenied
    obtain ⟨task, htask, hanswer⟩ :=
      List.mem_map.mp (RuleVerdict.mem_of_mem_denied hdenied)
    obtain ⟨hmem, hscheduled⟩ := List.mem_filter.mp htask
    have happroved :=
      keepRunningCheck_following snapshot config decidedAt hmem hscheduled
    have hcheck := congrArg Prod.snd hanswer
    cases happroved.symm.trans hcheck
  · intro task htask hscheduled
    apply RuleVerdict.check_ofChecks_eq_approved_iff.mpr
    refine List.mem_map.mpr ⟨task, List.mem_filter.mpr ⟨htask, hscheduled⟩, ?_⟩
    exact congrArg (Prod.mk task.id)
      (keepRunningCheck_following snapshot config decidedAt htask hscheduled)

/-- No chain waits for an attempt of its own after a tick: the attempt that
holds nodes heads the chain. -/
theorem waiting_following (id running : TaskId) :
    (id, .chainAlreadyRunning running) ∉
      (prepare (following snapshot config decidedAt)
        config).verdicts.waiting.denied := by
  intro hdenied
  obtain ⟨task, htask, hanswer⟩ :=
    List.mem_map.mp (RuleVerdict.mem_of_mem_denied hdenied)
  obtain ⟨hmem, hqueued⟩ := List.mem_filter.mp htask
  obtain ⟨hhead, hrunning⟩ :=
    startCheck_eq_chainAlreadyRunning (congrArg Prod.snd hanswer)
  obtain ⟨attempt, hattempt, hscheduled, hchain⟩ :=
    exists_of_runningAttempt?_eq_some hrunning
  have hattemptHead :=
    (admitted_before snapshot config decidedAt hattempt hscheduled).1
  have hid : attempt.id = task.id :=
    WorkingSet.chainHead_unique _ config.defaultGroup hattempt hmem hattemptHead
      hhead hchain
  have hsame : attempt = task :=
    List.inj_on_of_nodup_map
      (consistent_workingSet (following snapshot config decidedAt)
        config).taskIds
      hattempt hmem hid
  rw [hsame, Task.isScheduled, decide_eq_true_eq] at hscheduled
  rw [Task.isQueued, decide_eq_true_eq, hscheduled] at hqueued
  cases hqueued

/-- Where the rules let every scheduled task keep its nodes, only a task above
it takes them. -/
theorem exists_starter_of_suspended
    (hentitled : ∀ task ∈ (workingSet snapshot config).tasks,
      task.task.isScheduled →
      (prepare snapshot config).verdicts.running.check task.id = .approved)
    {victim : Task} (hvictim : victim ∈ tickRows (prepare snapshot config))
    (hsuspended : victim.processResult = .suspend) :
    ∃ starter ∈ tickRows (prepare snapshot config),
      victim.GivesWayTo (workingSet snapshot config).users starter := by
  obtain ⟨pass, frame, -, -, task, htask, hruling⟩ :=
    (allReady_prepare snapshot config).ruled hvictim
  have hscheduled : task.task.isScheduled :=
    hruling.isScheduled_of_suspended hsuspended
  have hpasses := RuleVerdict.passes_of_check
    (hentitled task (mem_matchable_iff.mp htask).1 hscheduled)
  rw [show task.id = victim.id from hruling.id_eq.symm] at hpasses
  exact (exists_starter_of_victim snapshot config hvictim
    ⟨hsuspended, hpasses⟩).2

/-- The snapshot after an enacted tick is in order. -/
theorem inOrder_nextSnapshot :
    ((schedule snapshot config decidedAt).assignment.nextSnapshot
        snapshot).InOrder config where
  undisputed := undisputed_following snapshot config decidedAt
  noneDenied := (running_following snapshot config decidedAt).1
  entitled := (running_following snapshot config decidedAt).2
  handedOver := waiting_following snapshot config decidedAt
  outranked := by
    intro later victim hvictim hsuspended
    rw [schedule_tasks] at hvictim ⊢
    exact exists_starter_of_suspended (following snapshot config decidedAt)
      config (running_following snapshot config decidedAt).2 hvictim hsuspended

end Order

end Tick

end ClusterTick
