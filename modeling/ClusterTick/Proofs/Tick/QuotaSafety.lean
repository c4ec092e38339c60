import ClusterTick.Fixture.Scenario
import ClusterTick.Proofs.Rules.Entitlement
import ClusterTick.Proofs.Tick.Assembly

/-!
# What the users hold

After a tick no user holds more nodes of a group at a tier than the quota, the
visible nodes and the size of the group allow.  A task that keeps its nodes is
admitted by the walk over the scheduled tasks, and one that starts by the walk
over all tasks; since both walks answer the scheduled tasks alike, the ceiling
of the second one bounds both together.
-/

namespace ClusterTick

/-- The bucket that a row counts against. -/
def QuotaBucket.ofRow (users : OrderedMap UserName UserView) (row : Task) :
    QuotaBucket :=
  ⟨row.userName, ⟨row.group, .ofValue (WorkingSet.effectivePriority users row)⟩⟩

/-- The number of nodes that a bucket may hold. -/
def WorkingSet.allowance (set : WorkingSet) (bucket : QuotaBucket) : Nat :=
  match set.users.get? bucket.user with
  | some view =>
    min (min (view.quota.ceiling bucket.slot.group bucket.slot.tier).toNat
      (view.visibleIn bucket.slot.group)) (set.groupSize bucket.slot.group)
  | none => 0

namespace Assignment

/-- The rows that hold nodes at the cost of a bucket. -/
def chargedTo (assignment : Assignment) (users : OrderedMap UserName UserView)
    (bucket : QuotaBucket) : List Task :=
  assignment.tasks.filter fun row =>
    row.isHolding && QuotaBucket.ofRow users row = bucket

/-- The number of nodes held at the cost of a bucket. -/
def heldBy (assignment : Assignment) (users : OrderedMap UserName UserView)
    (bucket : QuotaBucket) : Nat :=
  ((assignment.chargedTo users bucket).map fun row => row.nodes.toNat).sum

theorem mem_chargedTo_iff {assignment : Assignment}
    {users : OrderedMap UserName UserView} {bucket : QuotaBucket} {row : Task} :
    row ∈ assignment.chargedTo users bucket ↔
      row ∈ assignment.tasks ∧ row.isHolding ∧
        QuotaBucket.ofRow users row = bucket := by
  simp [chargedTo]

end Assignment

theorem QuotaBucket.ofRow_eq_of_request {users : OrderedMap UserName UserView}
    {left right : Task} (hsame : left.request = right.request) :
    ofRow users left = ofRow users right := by
  simp only [ofRow, WorkingSet.effectivePriority,
    Task.userName_eq_of_request hsame, Task.group_eq_of_request hsame,
    Task.priority_eq_of_request hsame]

/-- A task that holds nodes was admitted, either to keep them or to start. -/
theorem Ruling.approved_of_holding {partition : Partition} {pass : MatchPass}
    {rows : List Task} {candidate : Candidate} {row : Task}
    (hruling : Ruling partition pass rows candidate row)
    (hholding : row.isHolding) :
    candidate.verdict.running = .approved ∨
      candidate.admission = .approved := by
  rcases hruling.kept_or_started hholding with
    ⟨-, hrunning, -⟩ | ⟨chosen, -, hadmission, -⟩
  · exact Or.inl hrunning
  · exact Or.inr hadmission

namespace Tick

section Admitted

variable (snapshot : Snapshot) (config : EngineConfig)

/-- The walk over all tasks admits every task that holds nodes after the
tick. -/
theorem exists_admitted_of_holding {row : Task}
    (hrow : row ∈ tickRows (prepare snapshot config))
    (hholding : row.isHolding) :
    ∃ view, (workingSet snapshot config).users.get? row.userName = some view ∧
      ∃ task ∈ QuotaAdmission.admitted
          (QuotaAdmission.ceiling view (workingSet snapshot config).groupSize
            (QuotaBucket.ofRow (workingSet snapshot config).users row).slot)
          0
          (QuotaAdmission.bucketTasks (workingSet snapshot config) .all
            (QuotaBucket.ofRow (workingSet snapshot config).users row)),
        task.id = row.id ∧ task.task.nodes = row.nodes := by
  have hconsistent := consistent_workingSet snapshot config
  obtain ⟨pass, frame, -, -, task, htask, hruling⟩ :=
    (allReady_prepare snapshot config).ruled hrow
  have hmem : task ∈ (workingSet snapshot config).tasks :=
    (mem_matchable_iff.mp htask).1
  have hrequest : row.request = task.task.request := hruling.request_eq
  have happroved :
      (QuotaAdmission.walk (workingSet snapshot config)
            (workingSet snapshot config).groupSize .all).check task.id =
        .approved := by
    rcases hruling.approved_of_holding hholding with hrunning | hadmission
    · obtain ⟨holder, hholder, hid, hscheduled, -, hentitled⟩ :=
        mayKeepRunning_eq_approved hrunning
      rw [← hid] at hentitled ⊢
      rwa [← QuotaAdmission.check_walk_scheduled hconsistent.taskIds hholder
        hscheduled]
    · exact (Check.andThen_eq_approved_iff.mp hadmission).2
  obtain ⟨bucket, view, hview, hadmitted⟩ :=
    QuotaAdmission.walk_approved_iff.mp happroved
  obtain ⟨member, hmember, hid⟩ := List.mem_map.mp hadmitted
  obtain ⟨hwalked, hbucket⟩ := QuotaAdmission.mem_bucketTasks_iff.mp
    ((QuotaAdmission.admitted_sublist _).subset hmember)
  obtain rfl : member = task :=
    List.inj_on_of_nodup_map hconsistent.taskIds
      (List.mem_of_mem_filter hwalked) hmem hid
  have hrowBucket :
      QuotaBucket.ofRow (workingSet snapshot config).users row = bucket := by
    rw [QuotaBucket.ofRow_eq_of_request hrequest, ← hbucket, QuotaBucket.ofRow,
      ← hconsistent.priority member hmem]
    rfl
  have huser : row.userName = bucket.user :=
    congrArg QuotaBucket.user hrowBucket
  refine ⟨view, huser ▸ hview, member, hrowBucket ▸ hmember, ?_, ?_⟩
  · exact (Task.id_eq_of_request hrequest).symm
  · exact (Task.nodes_eq_of_request hrequest).symm

/-- So a task that holds nodes after the tick heads its chain, and is
admitted. -/
theorem admitted_of_holding {task : PreparedTask}
    (htask : task ∈ (workingSet snapshot config).tasks) {row : Task}
    (hrow : row ∈ tickRows (prepare snapshot config)) (hid : row.id = task.id)
    (hholding : row.isHolding) :
    task.isChainHead ∧ ∃ view,
      (workingSet snapshot config).users.get? task.task.userName = some view ∧
        task ∈ QuotaAdmission.admitted
          (QuotaAdmission.ceiling view (workingSet snapshot config).groupSize
            (QuotaBucket.ofTask task).slot) 0
          (QuotaAdmission.bucketTasks (workingSet snapshot config) .all
            (QuotaBucket.ofTask task)) := by
  obtain ⟨view, hview, member, hmember, hmemberId, -⟩ :=
    exists_admitted_of_holding snapshot config hrow hholding
  obtain ⟨hwalked, hbucket⟩ := QuotaAdmission.mem_bucketTasks_iff.mp
    ((QuotaAdmission.admitted_sublist _).subset hmember)
  obtain ⟨hmem, hscope⟩ := List.mem_filter.mp hwalked
  obtain rfl : member = task := by
    apply List.inj_on_of_nodup_map
      (consistent_workingSet snapshot config).taskIds hmem htask
    exact hmemberId.trans hid
  have huser : row.userName = member.task.userName :=
    (congrArg QuotaBucket.user hbucket).symm
  rw [Bool.and_eq_true] at hscope
  exact ⟨hscope.2, view, huser ▸ hview, hbucket ▸ hmember⟩

end Admitted

section Schedule

variable (snapshot : Snapshot) (config : EngineConfig) (decidedAt : Instant)

private theorem toNat_ceiling_le_allowance {view : UserView}
    {bucket : QuotaBucket}
    (hview : (workingSet snapshot config).users.get? bucket.user = some view) :
    (QuotaAdmission.ceiling view (workingSet snapshot config).groupSize
        bucket.slot).toNat ≤
      (workingSet snapshot config).allowance bucket := by
  rw [WorkingSet.allowance, hview]
  exact QuotaAdmission.toNat_ceiling_le view _ bucket.slot

private theorem allowance_le_length (bucket : QuotaBucket) :
    (workingSet snapshot config).allowance bucket ≤
      (WorkingSet.activeNodes snapshot config.defaultGroup).length := by
  have hsize : (workingSet snapshot config).groupSize bucket.slot.group ≤
      (WorkingSet.activeNodes snapshot config.defaultGroup).length := by
    rw [← WorkingSet.length_ofSnapshot_nodes]
    exact WorkingSet.groupSize_le_length _ bucket.slot.group
  rw [WorkingSet.allowance]
  split
  · exact Nat.le_trans (Nat.min_le_right _ _) hsize
  · exact Nat.zero_le _

/-- The rows charged to a bucket are among the tasks that the walk admits to
it. -/
theorem heldBy_le_sum_admitted {bucket : QuotaBucket} {view : UserView}
    (hview : (workingSet snapshot config).users.get? bucket.user = some view) :
    (schedule snapshot config decidedAt).assignment.heldBy
        (workingSet snapshot config).users bucket ≤
      ((QuotaAdmission.admitted
        (QuotaAdmission.ceiling view (workingSet snapshot config).groupSize
          bucket.slot)
        0
        (QuotaAdmission.bucketTasks (workingSet snapshot config) .all
            bucket)).map fun prepared =>
          prepared.task.nodes.toNat).sum := by
  have hrows := nodup_schedule_tasks snapshot config decidedAt
  apply QuotaAdmission.sum_amounts_le
    (hrows.sublist (List.filter_sublist.map _))
  intro row hrow
  obtain ⟨hmem, hholding, rfl⟩ := Assignment.mem_chargedTo_iff.mp hrow
  rw [schedule_tasks] at hmem
  obtain ⟨other, hother, task, htask, hid, hnodes⟩ :=
    exists_admitted_of_holding snapshot config hmem hholding
  obtain rfl : other = view := Option.some.inj (hother.symm.trans hview)
  exact ⟨task, htask, hid, congrArg UInt32.toNat hnodes⟩

/-- No bucket holds more than it may after a tick, and nobody holds nodes whom
the snapshot does not know. -/
theorem heldBy_schedule_le
    (hsize : (WorkingSet.activeNodes snapshot config.defaultGroup).length <
      UInt32.size - 1) :
    (∀ bucket,
        (schedule snapshot config decidedAt).assignment.heldBy
            (workingSet snapshot config).users bucket ≤
          (workingSet snapshot config).allowance bucket) ∧
      ∀ row ∈ (schedule snapshot config decidedAt).assignment.tasks,
        row.isHolding → row.userName ∈ snapshot.users.map User.userName := by
  constructor
  · intro bucket
    cases hview : (workingSet snapshot config).users.get? bucket.user with
    | none =>
      have hnone : (schedule snapshot config decidedAt).assignment.chargedTo
          (workingSet snapshot config).users bucket = [] := by
        rw [List.eq_nil_iff_forall_not_mem]
        intro row hrow
        obtain ⟨hmem, hholding, rfl⟩ := Assignment.mem_chargedTo_iff.mp hrow
        rw [schedule_tasks] at hmem
        obtain ⟨view, hsome, -⟩ :=
          exists_admitted_of_holding snapshot config hmem hholding
        rw [QuotaBucket.ofRow, hsome] at hview
        cases hview
      rw [Assignment.heldBy, hnone]
      exact Nat.zero_le _
    | some view =>
      have hceiling := toNat_ceiling_le_allowance snapshot config hview
      have hallowance := allowance_le_length snapshot config bucket
      have hsum :=
        QuotaAdmission.sum_admitted_le
          (Nat.lt_of_le_of_lt (Nat.le_trans hceiling hallowance) hsize)
          (UInt32.zero_le)
          (QuotaAdmission.bucketTasks (workingSet snapshot config) .all bucket)
      rw [UInt32.toNat_zero, Nat.zero_add] at hsum
      calc
        _ ≤ _ := heldBy_le_sum_admitted snapshot config decidedAt hview
        _ ≤ (QuotaAdmission.ceiling view (workingSet snapshot config).groupSize
            bucket.slot).toNat := hsum
        _ ≤ (workingSet snapshot config).allowance bucket := hceiling
  · intro row hrow hholding
    rw [schedule_tasks] at hrow
    obtain ⟨view, hview, -⟩ :=
      exists_admitted_of_holding snapshot config hrow hholding
    obtain ⟨user, huser, hname, -⟩ :=
      WorkingSet.exists_user_of_view snapshot config.defaultGroup hview
    exact hname ▸ List.mem_map_of_mem huser

/-- A user whose running task takes up the quota, and a user without a row. -/
def fullQuota : Snapshot :=
  { group := ⟨"train"⟩ : Scenario }
    |>.addReadyNode ⟨"n1"⟩ "room"
    |>.addQuotaHolder ⟨"alice"⟩ 1
    |>.addScheduled ⟨1⟩ ⟨"alice"⟩ 10 [⟨"n1"⟩]
    |>.addQueued ⟨2⟩ ⟨"bob"⟩ 10 1
    |>.snapshot default

/-- The running task holds all that its user may hold. -/
theorem heldBy_schedule_fullQuota :
    (WorkingSet.activeNodes fullQuota ⟨"default"⟩).length < UInt32.size - 1 ∧
      (schedule fullQuota {} default).assignment.heldBy
          (workingSet fullQuota {}).users ⟨⟨"alice"⟩, ⟨⟨"train"⟩, .normal⟩⟩ =
        1 ∧
      (workingSet fullQuota {}).allowance ⟨⟨"alice"⟩, ⟨⟨"train"⟩, .normal⟩⟩ =
        1 ∧
      (∀ bucket,
        (schedule fullQuota {} default).assignment.heldBy
            (workingSet fullQuota {}).users bucket ≤
          (workingSet fullQuota {}).allowance bucket) ∧
      ∀ row ∈ (schedule fullQuota {} default).assignment.tasks, row.isHolding →
        row.userName ∈ fullQuota.users.map User.userName :=
  ⟨by decide +kernel, by decide +kernel, by decide +kernel,
    heldBy_schedule_le fullQuota {} default (by decide +kernel)⟩

end Schedule

end Tick

end ClusterTick
