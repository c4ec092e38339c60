import ClusterTick.Proofs.Rules.QuotaAdmission

/-!
# What a rule answers on one task

The answers on different tasks do not get in each other's way: a rule with one
answer for a task gives this answer, whatever else it was asked.  A quota walk
answers a task by its bucket alone, and there by the tasks that it comes to
before it.
-/

namespace ClusterTick

namespace RuleVerdict

variable {checks left right : List (TaskId × Check)} {id : TaskId}
  {check : Check}

private theorem contains_denials_record {verdict : RuleVerdict}
    {judged : TaskId} {denial : Denial}
    (hdenied : verdict.denials.contains id ∨
      (id, Check.denied denial) = (judged, check)) :
    (verdict.record judged check).denials.contains id := by
  cases check with
  | approved => simpa [record, approve] using hdenied
  | denied reason =>
    simp only [record, deny, OrderedMap.contains, OrderedMap.get?_insert]
    by_cases hid : id = judged
    · simp [hid]
    · rw [if_neg hid]
      simpa [hid, OrderedMap.contains] using hdenied

theorem contains_denials_foldl_record {verdict : RuleVerdict} {denial : Denial}
    (hdenied : verdict.denials.contains id ∨
      (id, Check.denied denial) ∈ checks) :
    (checks.foldl (fun verdict (id, check) => verdict.record id check)
        verdict).denials.contains id := by
  induction checks generalizing verdict with
  | nil => simpa using hdenied
  | cons answer rest ih =>
    rw [List.foldl_cons]
    apply ih
    rw [List.mem_cons, ← or_assoc] at hdenied
    exact hdenied.imp_left contains_denials_record

/-- A rule with one answer for a task gives this answer. -/
theorem check_ofChecks_of_mem (hids : (checks.map Prod.fst).Nodup)
    (hanswer : (id, check) ∈ checks) : (ofChecks checks).check id = check := by
  have hunique : ∀ other, (id, other) ∈ checks → other = check :=
    fun other hother =>
      congrArg Prod.snd (List.inj_on_of_nodup_map hids hother hanswer rfl)
  cases check with
  | approved => exact check_ofChecks_eq_approved_iff.mpr hanswer
  | denied denial =>
    have hnot : (ofChecks checks).passes id = false := by
      rw [Bool.eq_false_iff]
      intro hpasses
      have happroved : (ofChecks checks).check id = .approved := if_pos hpasses
      cases hunique _ (check_ofChecks_eq_approved_iff.mp happroved)
    have hdenied : (ofChecks checks).denials.contains id :=
      contains_denials_foldl_record (Or.inr hanswer)
    obtain ⟨reason, hreason⟩ := Option.isSome_iff_exists.mp hdenied
    have hsame :=
      hunique _ (mem_of_mem_denied (OrderedMap.get?_eq_some_iff.mp hreason))
    rw [RuleVerdict.check, hnot, hreason]
    exact hsame

/-- A task that a rule does not judge is turned down as not judged. -/
theorem check_ofChecks_of_unjudged (hid : id ∉ checks.map Prod.fst) :
    (ofChecks checks).check id = .denied .notEvaluated := by
  have hnone : ∀ check, (id, check) ∉ checks := fun check hanswer =>
    hid (List.mem_map_of_mem hanswer)
  have hnot : (ofChecks checks).passes id = false := by
    rw [Bool.eq_false_iff]
    intro hpasses
    have happroved : (ofChecks checks).check id = .approved := if_pos hpasses
    exact hnone _ (check_ofChecks_eq_approved_iff.mp happroved)
  have hdenials : (ofChecks checks).denials.get? id = none := by
    rw [Option.eq_none_iff_forall_ne_some]
    intro denial hdenial
    exact hnone _ (mem_of_mem_denied (OrderedMap.get?_eq_some_iff.mp hdenial))
  rw [check, hnot, hdenials]
  rfl

/-- Two rules with the same answer for a task answer it alike. -/
theorem check_ofChecks_congr (hleft : (left.map Prod.fst).Nodup)
    (hright : (right.map Prod.fst).Nodup)
    (hsame : ∀ check, (id, check) ∈ left ↔ (id, check) ∈ right) :
    (ofChecks left).check id = (ofChecks right).check id := by
  by_cases hjudged : id ∈ left.map Prod.fst
  · obtain ⟨⟨judged, check⟩, hanswer, rfl⟩ := List.mem_map.mp hjudged
    rw [check_ofChecks_of_mem hleft hanswer,
      check_ofChecks_of_mem hright ((hsame check).mp hanswer)]
  · have hunjudged : id ∉ right.map Prod.fst := by
      intro hmem
      obtain ⟨⟨judged, check⟩, hanswer, rfl⟩ := List.mem_map.mp hmem
      exact hjudged (List.mem_map_of_mem ((hsame check).mpr hanswer))
    rw [check_ofChecks_of_unjudged hjudged,
      check_ofChecks_of_unjudged hunjudged]

section Tasks

variable {tasks : List PreparedTask} (hids : (tasks.map PreparedTask.id).Nodup)
variable {judges : PreparedTask → Bool} {answer : PreparedTask → Check}

include hids

/-- What a rule answers that judges some of the tasks, each by itself. -/
theorem check_ofChecks_filter_map {task : PreparedTask} (htask : task ∈ tasks) :
    (ofChecks
          ((tasks.filter judges).map fun task => (task.id, answer task))).check
        task.id =
      if judges task then answer task else .denied .notEvaluated := by
  have hfst :
      ((tasks.filter judges).map fun task => (task.id, answer task)).map
          Prod.fst =
        (tasks.filter judges).map PreparedTask.id := by
    rw [List.map_map]
    rfl
  have hjudgedIds :=
    hids.sublist ((List.filter_sublist (p := judges) (l := tasks)).map _)
  split
  case isTrue hjudges =>
    apply check_ofChecks_of_mem
    · rwa [hfst]
    · exact List.mem_map_of_mem (List.mem_filter.mpr ⟨htask, hjudges⟩)
  case isFalse hjudges =>
    apply check_ofChecks_of_unjudged
    rw [hfst]
    intro hmem
    obtain ⟨other, hother, hid⟩ := List.mem_map.mp hmem
    obtain ⟨hotherTask, hotherJudges⟩ := List.mem_filter.mp hother
    rw [List.inj_on_of_nodup_map hids hotherTask htask hid] at hotherJudges
    exact hjudges hotherJudges

end Tasks

end RuleVerdict

section Answers

variable {set : WorkingSet} {sizes : PartitionSizes} {task : PreparedTask}
variable (hids : (set.tasks.map PreparedTask.id).Nodup)
  (htask : task ∈ set.tasks)

include hids htask

/-- What the rule on scheduled tasks answers. -/
theorem check_mayKeepRunning : (mayKeepRunning set sizes).check task.id =
    if task.task.isScheduled then
      keepRunningCheck set (QuotaAdmission.walk set sizes .scheduled) task
    else .denied .notEvaluated :=
  RuleVerdict.check_ofChecks_filter_map hids htask

/-- What the rule on queued tasks answers. -/
theorem check_mayStart : (mayStart set).check task.id =
    if task.task.isQueued then startCheck set task else .denied .notEvaluated :=
  RuleVerdict.check_ofChecks_filter_map hids htask

end Answers

namespace QuotaAdmission

section Walk

variable {ceiling held : UInt32}

@[simp]
theorem ids_walkBucket (tasks : List PreparedTask) :
    (walkBucket ceiling held tasks).map Prod.fst =
      tasks.map PreparedTask.id := by
  induction tasks generalizing held with
  | nil => rfl
  | cons prepared rest ih =>
    simp only [walkBucket]
    split
    · simp [ih]
    · simp [ih]

/-- What is answered on tasks does not depend on those after them. -/
theorem walkBucket_prefix_append (tasks later : List PreparedTask) :
    walkBucket ceiling held tasks <+:
      walkBucket ceiling held (tasks ++ later) := by
  induction tasks generalizing held with
  | nil => exact List.nil_prefix
  | cons prepared rest ih =>
    simp only [List.cons_append, walkBucket]
    split
    · exact (List.prefix_cons_inj _).mpr ih
    · exact (List.prefix_cons_inj _).mpr ih

private theorem mem_walkBucket_append_iff {tasks later : List PreparedTask}
    {id : TaskId} {check : Check} (hid : id ∉ later.map PreparedTask.id) :
    (id, check) ∈ walkBucket ceiling held (tasks ++ later) ↔
      (id, check) ∈ walkBucket ceiling held tasks := by
  have hprefix : walkBucket ceiling held tasks <+:
      walkBucket ceiling held (tasks ++ later) :=
    walkBucket_prefix_append tasks later
  obtain ⟨answers, hanswers⟩ := hprefix
  have hids := congrArg (List.map Prod.fst) hanswers
  rw [List.map_append, ids_walkBucket, ids_walkBucket, List.map_append,
    List.append_cancel_left_eq] at hids
  rw [← hanswers, List.mem_append, or_iff_left]
  intro hanswer
  exact hid (hids ▸ List.mem_map_of_mem hanswer)

end Walk

section Buckets

variable {set : WorkingSet} {sizes : PartitionSizes} {scope : WalkScope}
  {bucket : QuotaBucket}

/-- The answers of a walk for one bucket. -/
def bucketVerdict (set : WorkingSet) (sizes : PartitionSizes)
    (scope : WalkScope) (bucket : QuotaBucket) : RuleVerdict :=
  RuleVerdict.ofChecks (bucketChecks set sizes (walked set scope) bucket)

theorem bucketChecks_eq : bucketChecks set sizes (walked set scope) bucket =
    match set.users.get? bucket.user with
    | some view =>
      walkBucket (ceiling view sizes bucket.slot) 0
        (bucketTasks set scope bucket)
    | none => (bucketMembers set scope bucket).map fun prepared =>
        (prepared.id, .denied .unknownUser) := rfl

theorem ids_bucketChecks :
    ((bucketChecks set sizes (walked set scope) bucket).map Prod.fst).Perm
      ((bucketMembers set scope bucket).map PreparedTask.id) := by
  rw [bucketChecks_eq]
  split
  · rw [ids_walkBucket]
    exact (List.mergeSort_perm _ _).map _
  · rw [List.map_map]
    exact List.Perm.refl _

theorem mem_bucketMembers_iff {prepared : PreparedTask} :
    prepared ∈ bucketMembers set scope bucket ↔
      prepared ∈ walked set scope ∧ QuotaBucket.ofTask prepared = bucket := by
  simp [bucketMembers]

theorem nodup_bucketChecks (hids : (set.tasks.map PreparedTask.id).Nodup) :
    ((bucketChecks set sizes (walked set scope) bucket).map Prod.fst).Nodup :=
  ids_bucketChecks.nodup_iff.mpr
    (hids.sublist ((List.filter_sublist.trans List.filter_sublist).map _))

/-- An answer of a bucket is on one of its tasks. -/
theorem exists_of_mem_bucketChecks {answer : TaskId × Check}
    (hanswer : answer ∈ bucketChecks set sizes (walked set scope) bucket) :
    ∃ prepared ∈ walked set scope, prepared.id = answer.1 ∧
      QuotaBucket.ofTask prepared = bucket := by
  obtain ⟨prepared, hprepared, hid⟩ :=
    List.mem_map.mp (ids_bucketChecks.subset (List.mem_map_of_mem hanswer))
  obtain ⟨hwalked, hbucket⟩ := mem_bucketMembers_iff.mp hprepared
  exact ⟨prepared, hwalked, hid, hbucket⟩

private theorem task_of_bucketChecks
    (hids : (set.tasks.map PreparedTask.id).Nodup) {task : PreparedTask}
    (htask : task ∈ set.tasks) {check : Check}
    (hanswer : (task.id, check) ∈
      bucketChecks set sizes (walked set scope) bucket) :
    task ∈ walked set scope ∧ bucket = QuotaBucket.ofTask task := by
  obtain ⟨prepared, hwalked, hid, hbucket⟩ := exists_of_mem_bucketChecks hanswer
  obtain rfl :=
    List.inj_on_of_nodup_map hids (List.mem_of_mem_filter hwalked) htask hid
  exact ⟨hwalked, hbucket.symm⟩

/-- A walk answers once on each task that it judges. -/
theorem nodup_ids_walkChecks (hids : (set.tasks.map PreparedTask.id).Nodup) :
    ((walkChecks set sizes scope).map Prod.fst).Nodup := by
  rw [walkChecks, List.map_flatMap, List.nodup_flatMap]
  refine ⟨fun bucket _ => nodup_bucketChecks hids, (nodup_buckets scope).imp ?_⟩
  intro left right hne id hleft hright
  obtain ⟨first, hfirst, rfl⟩ := List.mem_map.mp hleft
  obtain ⟨second, hsecond, hid⟩ := List.mem_map.mp hright
  obtain ⟨one, hone, honeId, rfl⟩ := exists_of_mem_bucketChecks hfirst
  obtain ⟨other, hother, hotherId, rfl⟩ := exists_of_mem_bucketChecks hsecond
  have hsame : one = other :=
    List.inj_on_of_nodup_map hids (List.mem_of_mem_filter hone)
      (List.mem_of_mem_filter hother)
      (honeId.trans (hid.symm.trans hotherId.symm))
  exact hne (congrArg QuotaBucket.ofTask hsame)

/-- A walk answers a task by its bucket. -/
theorem check_walk (hids : (set.tasks.map PreparedTask.id).Nodup)
    {task : PreparedTask} (htask : task ∈ set.tasks) :
    (walk set sizes scope).check task.id =
      (bucketVerdict set sizes scope (QuotaBucket.ofTask task)).check
        task.id := by
  rw [walk_eq]
  apply RuleVerdict.check_ofChecks_congr (nodup_ids_walkChecks hids)
    (nodup_bucketChecks hids)
  intro check
  rw [walkChecks, List.mem_flatMap]
  constructor
  · rintro ⟨bucket, -, hanswer⟩
    rwa [(task_of_bucketChecks hids htask hanswer).2] at hanswer
  · intro hanswer
    have hwalked := (task_of_bucketChecks hids htask hanswer).1
    exact ⟨_, mem_buckets_iff.mpr ⟨task, hwalked, rfl⟩, hanswer⟩

/-- The order of a walk tells tasks apart. -/
theorem eq_of_compareWalk (hids : (set.tasks.map PreparedTask.id).Nodup)
    {left right : PreparedTask} (hleft : left ∈ set.tasks)
    (hright : right ∈ set.tasks) (hlevel : compareWalk left right = .eq) :
    left = right := by
  simp only [compareWalk, Ordering.then_eq_eq] at hlevel
  exact List.inj_on_of_nodup_map hids hleft hright
    (Std.LawfulEqCmp.eq_of_compare hlevel.2)

/-- What a walk answers on tasks that it comes to first is what it answers when
it judges only those. -/
theorem mem_bucketChecks_filter_iff {keep : PreparedTask → Bool}
    (hids : (set.tasks.map PreparedTask.id).Nodup)
    (hrespects : ∀ left right, (compareWalk left right).isLE → keep right →
      keep left)
    {task : PreparedTask} (htask : task ∈ set.tasks) (hkept : keep task)
    {check : Check} :
    (task.id, check) ∈
        bucketChecks set sizes ((walked set scope).filter keep) bucket ↔
      (task.id, check) ∈ bucketChecks set sizes (walked set scope) bucket := by
  have hmembers : ((walked set scope).filter keep).filter
      (fun prepared => QuotaBucket.ofTask prepared = bucket) =
        (bucketMembers set scope bucket).filter keep := by
    rw [bucketMembers, List.filter_comm]
  have htasks :
      ∀ prepared ∈ bucketMembers set scope bucket, prepared ∈ set.tasks :=
    fun _ hprepared =>
      List.mem_of_mem_filter (mem_bucketMembers_iff.mp hprepared).1
  have hall :
      (walked set scope).filter
          (fun prepared => QuotaBucket.ofTask prepared = bucket) =
        bucketMembers set scope bucket :=
    rfl
  simp only [bucketChecks, hmembers, hall]
  cases set.users.get? bucket.user with
  | none =>
    simp only [List.mem_map, List.mem_filter]
    constructor
    · rintro ⟨prepared, hprepared, hanswer⟩
      exact ⟨prepared, hprepared.1, hanswer⟩
    · rintro ⟨prepared, hprepared, hanswer⟩
      have hsame : prepared = task :=
        List.inj_on_of_nodup_map hids (htasks prepared hprepared) htask
          (congrArg Prod.fst hanswer)
      exact ⟨prepared, ⟨hprepared, hsame ▸ hkept⟩, hanswer⟩
  | some view =>
    have hfront : ((bucketMembers set scope bucket).filter keep).mergeSort
        (fun left right => (compareWalk left right).isLE) =
          (bucketTasks set scope bucket).filter keep :=
      (filter_mergeSort compareWalk keep fun first hfirst second hsecond =>
        eq_of_compareWalk hids (htasks first hfirst)
          (htasks second hsecond)).symm
    have hsplit : (bucketTasks set scope bucket).filter keep ++
        (bucketTasks set scope bucket).filter (fun prepared => !keep prepared) =
          bucketTasks set scope bucket :=
      filter_append_filter_of_pairwise (pairwise_mergeSort_isLE compareWalk _)
        fun left _ right _ => hrespects left right
    rw [hfront, ← mem_walkBucket_append_iff, hsplit]
    · rfl
    · intro hmem
      obtain ⟨prepared, hprepared, hid⟩ := List.mem_map.mp hmem
      obtain ⟨hwalked, hdropped⟩ := List.mem_filter.mp hprepared
      have hsame : prepared = task := List.inj_on_of_nodup_map hids
        (htasks prepared (List.mem_mergeSort.mp hwalked)) htask hid
      simp [hsame, hkept] at hdropped

end Buckets

end QuotaAdmission

end ClusterTick
