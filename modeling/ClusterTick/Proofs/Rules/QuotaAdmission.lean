import ClusterTick.Proofs.Order.Sorting
import ClusterTick.Proofs.Rules.Eligibility
import Mathlib.Algebra.GroupWithZero.Nat
import Mathlib.Algebra.Order.BigOperators.Group.List
import Mathlib.Algebra.Order.Group.Nat
import Mathlib.Data.List.Perm.Subperm

/-!
# What the quota walks admit

A walk approves a task exactly if the walk over its bucket admits it.  What is
admitted stays within the ceiling of the bucket as long as the sums do not run
over, and whoever is not admitted did not fit beside what was held by then.
-/

namespace ClusterTick.QuotaAdmission

instance : Std.TransCmp compareWalk := by
  have hwalk : compareWalk =
      compareLex
        (compareLex
          (fun left right =>
            compareOn (fun prepared => prepared.task.isScheduled) right left)
          (compareLex
            (fun left right =>
              compareOn PreparedTask.effectivePriority right left)
            (fun left right => compareOn PreparedTask.rankKey right left)))
        (compareOn PreparedTask.id) :=
    rfl
  rw [hwalk]
  infer_instance

section Walk

variable {ceiling held : UInt32}

/-- The tasks that a walk with the given number of nodes held approves. -/
def admitted (ceiling : UInt32) :
    (held : UInt32) → List PreparedTask → List PreparedTask
  | _, [] => []
  | held, prepared :: rest =>
    let total := saturatingAdd held prepared.task.nodes
    if total ≤ ceiling then prepared :: admitted ceiling total rest
    else admitted ceiling held rest

theorem mem_walkBucket_iff {tasks : List PreparedTask} {id : TaskId} :
    (id, Check.approved) ∈ walkBucket ceiling held tasks ↔
      id ∈ (admitted ceiling held tasks).map PreparedTask.id := by
  induction tasks generalizing held with
  | nil => simp [walkBucket, admitted]
  | cons prepared rest ih =>
    simp only [walkBucket, admitted]
    split
    · simp [ih]
    · simp [ih]

theorem admitted_sublist (tasks : List PreparedTask) :
    (admitted ceiling held tasks).Sublist tasks := by
  induction tasks generalizing held with
  | nil => exact List.Sublist.refl _
  | cons prepared rest ih =>
    simp only [admitted]
    split
    · exact ih.cons_cons prepared
    · exact ih.cons prepared

theorem toNat_saturatingAdd (left right : UInt32) :
    (saturatingAdd left right).toNat =
      min (left.toNat + right.toNat) (UInt32.size - 1) := by
  simp only [saturatingAdd, UInt32.toNat_ofNat', UInt32.size]
  omega

/-- What a walk approves stays within its ceiling, but for a sum that runs
over. -/
theorem min_sum_admitted_le (hheld : held ≤ ceiling)
    (tasks : List PreparedTask) :
    min
        (held.toNat +
          ((admitted ceiling held tasks).map fun prepared =>
            prepared.task.nodes.toNat).sum)
        (UInt32.size - 1) ≤ ceiling.toNat := by
  induction tasks generalizing held with
  | nil =>
    have hle := UInt32.le_iff_toNat_le.mp hheld
    simp only [admitted, List.map_nil, List.sum_nil, Nat.add_zero]
    omega
  | cons prepared rest ih =>
    simp only [admitted]
    split
    case isTrue hfits =>
      have htotal := ih hfits
      rw [toNat_saturatingAdd] at htotal
      rw [List.map_cons, List.sum_cons]
      omega
    · exact ih hheld

theorem sum_admitted_le (hceiling : ceiling.toNat < UInt32.size - 1)
    (hheld : held ≤ ceiling) (tasks : List PreparedTask) :
    held.toNat +
        ((admitted ceiling held tasks).map fun prepared =>
          prepared.task.nodes.toNat).sum ≤ ceiling.toNat := by
  have hsum := min_sum_admitted_le hheld tasks
  omega

/-- Whoever a walk turns down does not fit beside what is held by then, and that
is no more than what is held in the end. -/
theorem overQuota_of_mem_walkBucket {tasks : List PreparedTask} {id : TaskId}
    {denial : Denial}
    (hanswer : (id, Check.denied denial) ∈ walkBucket ceiling held tasks) :
    ∃ task ∈ tasks, ∃ before, task.id = id ∧
      denial = .overQuota before task.task.nodes ceiling ∧
      ceiling.toNat < before.toNat + task.task.nodes.toNat ∧
      before.toNat ≤
        held.toNat +
          ((admitted ceiling held tasks).map fun prepared =>
            prepared.task.nodes.toNat).sum := by
  induction tasks generalizing held with
  | nil => cases hanswer
  | cons prepared rest ih =>
    simp only [walkBucket] at hanswer
    simp only [admitted]
    split at hanswer
    case isTrue hfits =>
      have hlater := (List.mem_cons.mp hanswer).resolve_left (by simp)
      obtain ⟨task, htask, before, hid, hdenial, hover, hbefore⟩ := ih hlater
      rw [toNat_saturatingAdd] at hbefore
      rw [if_pos hfits, List.map_cons, List.sum_cons]
      exact ⟨task, List.mem_cons_of_mem _ htask, before, hid, hdenial, hover,
        by omega⟩
    case isFalse hlacks =>
      rw [if_neg hlacks]
      rcases List.mem_cons.mp hanswer with hhere | hlater
      · obtain ⟨rfl, hdenial⟩ := Prod.mk.inj hhere
        -- No ceiling is above the largest number, so the sum exceeds it even if
        -- it ran over.
        rw [UInt32.le_iff_toNat_le, toNat_saturatingAdd] at hlacks
        have hbelow : ceiling.toNat < UInt32.size := ceiling.toNat_lt_size
        exact ⟨prepared, List.mem_cons_self, held, rfl,
          Check.denied.inj hdenial, by omega, Nat.le_add_right _ _⟩
      · obtain ⟨task, htask, hdenied⟩ := ih hlater
        exact ⟨task, List.mem_cons_of_mem _ htask, hdenied⟩

/-- A walk approves all of its tasks if they fit under the ceiling together. -/
theorem admitted_eq_self {tasks : List PreparedTask}
    (hfits : min
        (held.toNat + (tasks.map fun prepared => prepared.task.nodes.toNat).sum)
        (UInt32.size - 1) ≤ ceiling.toNat) :
    admitted ceiling held tasks = tasks := by
  induction tasks generalizing held with
  | nil => rfl
  | cons prepared rest ih =>
    rw [List.map_cons, List.sum_cons] at hfits
    have hhead : saturatingAdd held prepared.task.nodes ≤ ceiling := by
      rw [UInt32.le_iff_toNat_le, toNat_saturatingAdd]
      omega
    have hrest :
        admitted ceiling (saturatingAdd held prepared.task.nodes) rest =
          rest := by
      apply ih
      rw [toNat_saturatingAdd]
      omega
    simp only [admitted, if_pos hhead, hrest]

end Walk

section Buckets

variable {set : WorkingSet} {sizes : PartitionSizes} {bucket : QuotaBucket}

/-- The tasks of a bucket that a walk judges. -/
def bucketMembers (set : WorkingSet) (scope : WalkScope)
    (bucket : QuotaBucket) : List PreparedTask :=
  (walked set scope).filter fun prepared => QuotaBucket.ofTask prepared = bucket

/-- The tasks of a bucket in the order of a walk. -/
def bucketTasks (set : WorkingSet) (scope : WalkScope) (bucket : QuotaBucket) :
    List PreparedTask :=
  (bucketMembers set scope bucket).mergeSort fun left right =>
    (compareWalk left right).isLE

/-- The buckets that a walk comes to, each once. -/
def buckets (set : WorkingSet) (scope : WalkScope) : List QuotaBucket :=
  (keepFirst ((walked set scope).map QuotaBucket.ofTask) fun bucket =>
    bucket).items

/-- The answers of a walk, bucket by bucket. -/
def walkChecks (set : WorkingSet) (sizes : PartitionSizes) (scope : WalkScope) :
    List (TaskId × Check) :=
  (buckets set scope).flatMap (bucketChecks set sizes (walked set scope))

theorem walk_eq {scope : WalkScope} :
    walk set sizes scope = .ofChecks (walkChecks set sizes scope) := rfl

theorem nodup_buckets (scope : WalkScope) : (buckets set scope).Nodup := by
  have hdistinct : ((buckets set scope).map fun bucket => bucket).Nodup :=
    nodup_map_keepFirst _
  rwa [List.map_id'] at hdistinct

theorem mem_buckets_iff {scope : WalkScope} :
    bucket ∈ buckets set scope ↔
      ∃ prepared ∈ walked set scope, QuotaBucket.ofTask prepared = bucket := by
  have hkept : bucket ∈ (buckets set scope).map (fun bucket => bucket) ↔
      bucket ∈
        ((walked set scope).map QuotaBucket.ofTask).map fun bucket => bucket :=
    mem_map_keepFirst_iff
  rwa [List.map_id', List.map_id', List.mem_map] at hkept

theorem mem_bucketTasks_iff {scope : WalkScope} {prepared : PreparedTask} :
    prepared ∈ bucketTasks set scope bucket ↔
      prepared ∈ walked set scope ∧ QuotaBucket.ofTask prepared = bucket := by
  simp [bucketTasks, bucketMembers]

theorem mem_bucketTasks_scheduled_iff {prepared : PreparedTask} :
    prepared ∈ bucketTasks set .scheduled bucket ↔
      prepared ∈ set.tasks ∧ prepared.task.isScheduled ∧ prepared.isChainHead ∧
        QuotaBucket.ofTask prepared = bucket := by
  simp [mem_bucketTasks_iff, walked, WalkScope.includes, and_assoc]

theorem nodup_bucketTasks (hids : (set.tasks.map PreparedTask.id).Nodup)
    (scope : WalkScope) :
    ((bucketTasks set scope bucket).map PreparedTask.id).Nodup := by
  have hperm := (List.mergeSort_perm (bucketMembers set scope bucket)
    fun left right => (compareWalk left right).isLE).map PreparedTask.id
  exact hperm.nodup_iff.mpr
    (hids.sublist ((List.filter_sublist.trans List.filter_sublist).map _))

/-- A task is approved exactly if the walk over its bucket admits it. -/
theorem walk_approved_iff {scope : WalkScope} {id : TaskId} :
    (walk set sizes scope).check id = .approved ↔
      ∃ (bucket : QuotaBucket) (view : UserView),
        set.users.get? bucket.user = some view ∧
        id ∈
          (admitted (ceiling view sizes bucket.slot) 0
              (bucketTasks set scope bucket)).map PreparedTask.id := by
  rw [walk_eq, RuleVerdict.check_ofChecks_eq_approved_iff, walkChecks,
    List.mem_flatMap]
  constructor
  · rintro ⟨bucket, -, hanswer⟩
    simp only [bucketChecks] at hanswer
    split at hanswer
    case h_1 view hview =>
      exact ⟨bucket, view, hview, mem_walkBucket_iff.mp hanswer⟩
    case h_2 => simp at hanswer
  · rintro ⟨bucket, view, hview, hadmitted⟩
    refine ⟨bucket, ?_, ?_⟩
    · obtain ⟨prepared, hprepared, -⟩ := List.mem_map.mp hadmitted
      exact mem_buckets_iff.mpr ⟨prepared,
        mem_bucketTasks_iff.mp ((admitted_sublist _).subset hprepared)⟩
    · simp only [bucketChecks, hview]
      exact mem_walkBucket_iff.mpr hadmitted

end Buckets

section Sums

variable {α β κ : Type} {part : List α} {whole : List β} {key : α → κ}
  {otherKey : β → κ}
variable {amount : α → Nat} {otherAmount : β → Nat}

/-- Amounts under distinct keys sum up to no more than amounts that contain
them. -/
theorem sum_amounts_le (hdistinct : (part.map key).Nodup)
    (hcontained : ∀ item ∈ part, ∃ other ∈ whole,
      otherKey other = key item ∧ otherAmount other = amount item) :
    (part.map amount).sum ≤ (whole.map otherAmount).sum := by
  have hpairs : (part.map fun item => (key item, amount item)).Nodup := by
    apply List.Nodup.of_map Prod.fst
    rwa [List.map_map]
  have hsubset : part.map (fun item => (key item, amount item)) ⊆
      whole.map fun other => (otherKey other, otherAmount other) := by
    intro pair hpair
    obtain ⟨item, hitem, rfl⟩ := List.mem_map.mp hpair
    obtain ⟨other, hother, hkey, hamount⟩ := hcontained item hitem
    exact List.mem_map.mpr ⟨other, hother, by rw [hkey, hamount]⟩
  obtain ⟨sub, hsame, hsub⟩ := List.subperm_of_subset hpairs hsubset
  calc
    (part.map amount).sum =
        ((part.map fun item => (key item, amount item)).map Prod.snd).sum := by
      rw [List.map_map]
      rfl
    _ = (sub.map Prod.snd).sum := (hsame.map _).sum_nat.symm
    _ ≤
        ((whole.map fun other => (otherKey other, otherAmount other)).map
          Prod.snd).sum :=
      (hsub.map _).sum_le_sum fun _ _ => Nat.zero_le _
    _ = (whole.map otherAmount).sum := by
      rw [List.map_map]
      rfl

end Sums

section Ceiling

theorem toNat_saturatingCount (count : Nat) :
    (saturatingCount count).toNat = min count (UInt32.size - 1) := by
  simp only [saturatingCount, UInt32.toNat_ofNat', UInt32.size]
  omega

private theorem toNat_saturatingCount_le (count : Nat) :
    (saturatingCount count).toNat ≤ count := by
  rw [toNat_saturatingCount]
  exact Nat.min_le_left count _

theorem toNat_ceiling_le (view : UserView) (sizes : PartitionSizes)
    (slot : QuotaSlot) :
    (ceiling view sizes slot).toNat ≤
      min
        (min (view.quota.ceiling slot.group slot.tier).toNat
          (view.visibleIn slot.group))
        (sizes slot.group) := by
  rw [ceiling, UInt32.toNat_min, UInt32.toNat_min]
  have hvisible := toNat_saturatingCount_le (view.visibleIn slot.group)
  have hsize := toNat_saturatingCount_le (sizes slot.group)
  omega

/-- Some of a quota can be used where the user sees a node and the group has
one. -/
theorem ceiling_pos {view : UserView} {sizes : PartitionSizes}
    {slot : QuotaSlot} (hquota : 0 < view.quota.ceiling slot.group slot.tier)
    (hseen : 0 < view.visibleIn slot.group) (hsize : 0 < sizes slot.group) :
    0 < ceiling view sizes slot := by
  rw [UInt32.lt_iff_toNat_lt] at hquota ⊢
  rw [ceiling, UInt32.toNat_min, UInt32.toNat_min, toNat_saturatingCount,
    toNat_saturatingCount]
  have hlargest : 0 < UInt32.size - 1 := by decide
  exact lt_min (lt_min hquota (lt_min hseen hlargest)) (lt_min hsize hlargest)

end Ceiling

end ClusterTick.QuotaAdmission
