import ClusterTick.Proofs.Rules.Answers
import ClusterTick.Proofs.Tick.WorkingSet

/-!
# What scheduled tasks are entitled to

The rule on scheduled tasks asks a quota walk of its own, over the scheduled
tasks alone.  It answers as the walk over all tasks does, to the numbers in a
denial, since the scheduled tasks come first there: queued work takes nothing
from what is running.  The walk over all tasks is greedy, and yet nobody it
turns down would fit beside all that it approves, the tasks behind it included.
-/

namespace ClusterTick

namespace QuotaAdmission

/-- The number of nodes that tasks ask for together. -/
def nodesOf (tasks : List PreparedTask) : Nat :=
  (tasks.map fun task => task.task.nodes.toNat).sum

variable {set : WorkingSet} {sizes : PartitionSizes}

section Agreement

theorem walked_scheduled : walked set .scheduled =
    (walked set .all).filter fun prepared => prepared.task.isScheduled := by
  simp only [walked, List.filter_filter, WalkScope.includes]
  refine List.filter_congr fun prepared _ => ?_
  cases prepared.task.isScheduled <;> simp

/-- The scheduled tasks come first in a walk. -/
theorem isScheduled_of_compareWalk {left right : PreparedTask}
    (hle : (compareWalk left right).isLE) (hright : right.task.isScheduled) :
    left.task.isScheduled := by
  cases hleft : left.task.isScheduled with
  | true => rfl
  | false =>
    have hfirst :
        compare right.task.isScheduled left.task.isScheduled = .gt := by
      rw [hleft, hright]
      rfl
    rw [compareWalk, hfirst] at hle
    cases hle

/-- A scheduled task is answered alike whether the queued ones are walked or
not. -/
theorem check_walk_scheduled (hids : (set.tasks.map PreparedTask.id).Nodup)
    {task : PreparedTask} (htask : task ∈ set.tasks)
    (hscheduled : task.task.isScheduled) :
    (walk set sizes .scheduled).check task.id =
      (walk set sizes .all).check task.id := by
  rw [check_walk hids htask, check_walk hids htask]
  apply RuleVerdict.check_ofChecks_congr (nodup_bucketChecks hids)
    (nodup_bucketChecks hids)
  intro check
  rw [walked_scheduled]
  exact mem_bucketChecks_filter_iff hids (fun _ _ => isScheduled_of_compareWalk)
    htask hscheduled

/-- The walk over the scheduled tasks is the rule on a working set with nothing
queued. -/
theorem withinLimits_filter_isScheduled :
    withinLimits
        { set with tasks := set.tasks.filter fun task => task.task.isScheduled }
        sizes =
      walk set sizes .scheduled := by
  have hwalked :
      walked
          { set with
            tasks := set.tasks.filter fun task => task.task.isScheduled }
          .all =
        walked set .scheduled := by
    rw [walked_scheduled]
    exact List.filter_comm _ _ _
  rw [withinLimits, walk_eq, walk_eq, walkChecks, walkChecks, buckets, buckets,
    hwalked]
  rfl

end Agreement

section Maximality

/-- The tasks of a bucket that fit the quota. -/
def approvedTasks (set : WorkingSet) (sizes : PartitionSizes)
    (bucket : QuotaBucket) : List PreparedTask :=
  set.tasks.filter fun task =>
    QuotaBucket.ofTask task = bucket ∧
      (withinLimits set sizes).check task.id = .approved

/-- What a walk admits to a bucket is approved. -/
theorem nodesOf_admitted_le (hids : (set.tasks.map PreparedTask.id).Nodup)
    {bucket : QuotaBucket} {view : UserView}
    (hview : set.users.get? bucket.user = some view) :
    nodesOf (admitted (ceiling view sizes bucket.slot) 0
        (bucketTasks set .all bucket)) ≤
      nodesOf (approvedTasks set sizes bucket) := by
  -- An inequality is enough: that the walk admits all that is approved is not
  -- needed here.
  have hsub :
      (admitted (ceiling view sizes bucket.slot) 0
          (bucketTasks set .all bucket)).Sublist
        (bucketTasks set .all bucket) :=
    admitted_sublist _
  have hcontained :
      ∀ task ∈ admitted (ceiling view sizes bucket.slot) 0
          (bucketTasks set .all bucket),
        ∃ other ∈ approvedTasks set sizes bucket, other.id = task.id ∧
          other.task.nodes.toNat = task.task.nodes.toNat := by
    intro task htask
    obtain ⟨hwalked, hbucket⟩ := mem_bucketTasks_iff.mp (hsub.subset htask)
    have happroved : (withinLimits set sizes).check task.id = .approved :=
      walk_approved_iff.mpr ⟨bucket, view, hview, List.mem_map_of_mem htask⟩
    refine ⟨task, List.mem_filter.mpr ⟨List.mem_of_mem_filter hwalked, ?_⟩, rfl,
      rfl⟩
    exact decide_eq_true ⟨hbucket, happroved⟩
  exact sum_amounts_le ((nodup_bucketTasks hids .all).sublist (hsub.map _))
    hcontained

/-- Whether a task that is turned down over quota lacks room beside all that is
approved in its bucket. -/
def LacksRoom (set : WorkingSet) (sizes : PartitionSizes) (task : PreparedTask)
    (requested limit : UInt32) : Prop :=
  requested = task.task.nodes ∧
    (∃ view, set.users.get? task.task.userName = some view ∧
      limit = ceiling view sizes (QuotaBucket.ofTask task).slot) ∧
    limit.toNat <
      nodesOf (approvedTasks set sizes (QuotaBucket.ofTask task)) +
        task.task.nodes.toNat

private theorem lacksRoom_of_overQuota
    (hids : (set.tasks.map PreparedTask.id).Nodup) {task : PreparedTask}
    (htask : task ∈ set.tasks) {held requested limit : UInt32}
    (hdenied : (withinLimits set sizes).check task.id =
      .denied (.overQuota held requested limit)) :
    LacksRoom set sizes task requested limit := by
  rw [withinLimits, check_walk hids htask] at hdenied
  have hanswer :=
    (RuleVerdict.mem_of_check_eq_denied hdenied).resolve_left (by simp)
  rw [bucketChecks_eq] at hanswer
  split at hanswer
  case h_1 view hview =>
    obtain ⟨other, hother, before, hid, hdenial, hover, hbefore⟩ :=
      overQuota_of_mem_walkBucket hanswer
    have hmem : other ∈ set.tasks :=
      List.mem_of_mem_filter (mem_bucketTasks_iff.mp hother).1
    obtain rfl := List.inj_on_of_nodup_map hids hmem htask hid
    obtain ⟨-, rfl, rfl⟩ := Denial.overQuota.inj hdenial
    refine ⟨rfl, ⟨view, hview, rfl⟩, ?_⟩
    have hsum :
        nodesOf (admitted (ceiling view sizes (QuotaBucket.ofTask other).slot) 0
            (bucketTasks set .all (QuotaBucket.ofTask other))) ≤
          nodesOf (approvedTasks set sizes (QuotaBucket.ofTask other)) :=
      nodesOf_admitted_le hids hview
    have hnothing : (0 : UInt32).toNat = 0 := rfl
    rw [nodesOf] at hsum
    omega
  case h_2 =>
    obtain ⟨other, -, hsame⟩ := List.mem_map.mp hanswer
    simp at hsame

end Maximality

/-- What the quota walks owe to the tasks of a working set. -/
structure FairAdmission (set : WorkingSet) (sizes : PartitionSizes) : Prop where
  /-- The walk over the scheduled tasks answers them as the walk over all tasks
  does. -/
  agree : ∀ task ∈ set.tasks, task.task.isScheduled →
    (walk set sizes .scheduled).check task.id =
      (withinLimits set sizes).check task.id
  /-- They would be answered alike if nothing were queued. -/
  undisturbed : ∀ task ∈ set.tasks, task.task.isScheduled →
    (withinLimits
          { set with
            tasks := set.tasks.filter fun other => other.task.isScheduled }
          sizes).check task.id =
      (withinLimits set sizes).check task.id
  /-- The latest attempt of a chain, if no conflict takes its nodes, keeps or
  loses them by this answer. -/
  running : ∀ task ∈ set.tasks, task.task.isScheduled → task.isChainHead →
    set.conflicts.get? task.id = none →
      (mayKeepRunning set sizes).check task.id =
        tightened ((withinLimits set sizes).check task.id)
  /-- Whoever is turned down over quota would not fit beside all that is
  approved. -/
  maximal : ∀ task ∈ set.tasks, ∀ held requested limit,
    (withinLimits set sizes).check task.id =
      .denied (.overQuota held requested limit) →
    LacksRoom set sizes task requested limit

theorem fairAdmission (hids : (set.tasks.map PreparedTask.id).Nodup) :
    FairAdmission set sizes where
  agree _ htask hscheduled := check_walk_scheduled hids htask hscheduled
  undisturbed task htask hscheduled := by
    rw [withinLimits_filter_isScheduled]
    exact check_walk_scheduled hids htask hscheduled
  running task htask hscheduled hhead hconflict := by
    rw [check_mayKeepRunning hids htask, if_pos hscheduled, keepRunningCheck,
      if_pos hhead, hconflict, check_walk_scheduled hids htask hscheduled]
    rfl
  maximal _ htask _ _ _ hdenied := lacksRoom_of_overQuota hids htask hdenied

/-- The quota walks agree on what is running, and they approve as much as fits,
for every snapshot and whatever the sizes of the groups are. -/
theorem fairAdmission_ofSnapshot (snapshot : Snapshot)
    (defaultGroup : GroupName) (sizes : PartitionSizes) :
    FairAdmission (WorkingSet.ofSnapshot snapshot defaultGroup) sizes :=
  fairAdmission (WorkingSet.consistent_ofSnapshot snapshot defaultGroup).taskIds

end QuotaAdmission

end ClusterTick
