import ClusterTick.Proofs.Rules.Answers

/-!
# The scope of a rule

Each rule judges the tasks of its scope: it approves a task or turns it down for
a reason, and is silent on all others.  So the answer that a task has not been
judged is given to no task of the scope.  The rule on scheduled tasks asks a
walk of narrower scope, and gets an answer because a task that is not the latest
attempt of its chain is turned down before.
-/

namespace ClusterTick

namespace RuleVerdict

/-- A verdict on the tasks of a scope, and on nobody else. -/
structure Judges (verdict : RuleVerdict) (set : WorkingSet)
    (scope : PreparedTask → Prop) : Prop where
  judged : ∀ id, (id ∈ verdict.approved ∨ id ∈ verdict.denied.map Prod.fst) ↔
    ∃ task ∈ set.tasks, scope task ∧ task.id = id
  /-- No task is approved and turned down. -/
  apart : ∀ id ∈ verdict.approved, id ∉ verdict.denied.map Prod.fst
  /-- Nobody is turned down without a reason. -/
  reasoned : ∀ id, (id, Denial.notEvaluated) ∉ verdict.denied

section Checks

variable {checks : List (TaskId × Check)} {id : TaskId}

private theorem mem_approved_ofChecks_iff :
    id ∈ (ofChecks checks).approved ↔ (id, Check.approved) ∈ checks := by
  rw [approved, ← OrderedMap.contains_iff_mem_keys, ofChecks]
  simpa [passes, OrderedMap.contains] using passes_foldl_record {} checks id

private theorem mem_denied_ofChecks_iff :
    id ∈ (ofChecks checks).denied.map Prod.fst ↔
      ∃ denial, (id, Check.denied denial) ∈ checks := by
  constructor
  · intro hdenied
    obtain ⟨⟨judged, denial⟩, hmem, rfl⟩ := List.mem_map.mp hdenied
    exact ⟨denial, mem_of_mem_denied hmem⟩
  · rintro ⟨denial, hanswer⟩
    exact OrderedMap.contains_iff_mem_keys.mp
      (contains_denials_foldl_record (Or.inr hanswer))

/-- A rule that answers once on each task of a scope, with a reason if it turns
the task down, judges the scope. -/
theorem judges_ofChecks {set : WorkingSet} {scope : PreparedTask → Prop}
    (hids : (checks.map Prod.fst).Nodup)
    (hscope : ∀ id,
      id ∈ checks.map Prod.fst ↔ ∃ task ∈ set.tasks, scope task ∧ task.id = id)
    (hreasons : ∀ id, (id, Check.denied .notEvaluated) ∉ checks) :
    (ofChecks checks).Judges set scope where
  judged := by
    intro id
    rw [mem_approved_ofChecks_iff, mem_denied_ofChecks_iff, ← hscope,
      List.mem_map]
    constructor
    · rintro (happroved | ⟨denial, hdenied⟩)
      · exact ⟨_, happroved, rfl⟩
      · exact ⟨_, hdenied, rfl⟩
    · rintro ⟨⟨judged, check⟩, hanswer, rfl⟩
      cases check with
      | approved => exact Or.inl hanswer
      | denied denial => exact Or.inr ⟨denial, hanswer⟩
  apart := by
    intro id happroved hdenied
    rw [mem_approved_ofChecks_iff] at happroved
    obtain ⟨denial, hanswer⟩ := mem_denied_ofChecks_iff.mp hdenied
    cases List.inj_on_of_nodup_map hids happroved hanswer rfl
  reasoned id hdenied := hreasons id (mem_of_mem_denied hdenied)

end Checks

section Answers

variable {verdict : RuleVerdict} {id : TaskId} {denial : Denial}

theorem passes_iff_mem_approved : verdict.passes id ↔ id ∈ verdict.approved :=
  OrderedMap.contains_iff_mem_keys

private theorem check_of_mem_denied (happroved : id ∉ verdict.approved)
    (hdenied : (id, denial) ∈ verdict.denied) :
    verdict.check id = .denied denial := by
  rw [check, if_neg (mt passes_iff_mem_approved.mp happroved),
    OrderedMap.get?_eq_some_iff.mpr hdenied]
  rfl

private theorem check_of_silent (happroved : id ∉ verdict.approved)
    (hdenied : id ∉ verdict.denied.map Prod.fst) :
    verdict.check id = .denied .notEvaluated := by
  have hnone : verdict.denials.get? id = none := by
    rw [OrderedMap.get?_eq_none_iff]
    rintro entry hentry rfl
    exact hdenied (List.mem_map_of_mem hentry)
  rw [check, if_neg (mt passes_iff_mem_approved.mp happroved), hnone]
  rfl

/-- The tasks that have not been judged are those outside the scope. -/
theorem Judges.check_eq_notEvaluated_iff {set : WorkingSet}
    {scope : PreparedTask → Prop} (hjudges : verdict.Judges set scope) :
    verdict.check id = .denied .notEvaluated ↔
      ¬ ∃ task ∈ set.tasks, scope task ∧ task.id = id := by
  rw [← hjudges.judged, not_or]
  constructor
  · intro hunjudged
    have happroved : id ∉ verdict.approved := by
      intro hmem
      rw [check, if_pos (passes_iff_mem_approved.mpr hmem)] at hunjudged
      cases hunjudged
    refine ⟨happroved, fun hmem => ?_⟩
    obtain ⟨⟨judged, denial⟩, hdenied, rfl⟩ := List.mem_map.mp hmem
    rw [check_of_mem_denied happroved hdenied] at hunjudged
    exact hjudges.reasoned judged (Check.denied.inj hunjudged ▸ hdenied)
  · rintro ⟨happroved, hdenied⟩
    exact check_of_silent happroved hdenied

end Answers

/-- A rule that answers on some of the tasks, each by itself, judges those. -/
theorem judges_filter_map {set : WorkingSet}
    (hids : (set.tasks.map PreparedTask.id).Nodup)
    {covered : PreparedTask → Bool} {answer : PreparedTask → Check}
    (hreasons : ∀ task ∈ set.tasks, covered task →
      answer task ≠ .denied .notEvaluated) :
    (ofChecks ((set.tasks.filter covered).map fun task =>
        (task.id, answer task))).Judges set fun task => covered task := by
  have hfst :
      ((set.tasks.filter covered).map fun task => (task.id, answer task)).map
          Prod.fst =
        (set.tasks.filter covered).map PreparedTask.id := by
    rw [List.map_map]
    rfl
  apply judges_ofChecks
  · rw [hfst]
    exact hids.sublist (List.filter_sublist.map _)
  · intro id
    simp only [hfst, List.mem_map, List.mem_filter, and_assoc]
  · intro id hanswer
    obtain ⟨task, htask, hsame⟩ := List.mem_map.mp hanswer
    obtain ⟨hmem, hcovered⟩ := List.mem_filter.mp htask
    exact hreasons task hmem hcovered (congrArg Prod.snd hsame)

end RuleVerdict

namespace QuotaAdmission

variable {set : WorkingSet} {sizes : PartitionSizes} {scope : WalkScope}

private theorem notEvaluated_not_mem_walkChecks (id : TaskId) :
    (id, Check.denied .notEvaluated) ∉ walkChecks set sizes scope := by
  intro hanswer
  obtain ⟨bucket, -, hbucket⟩ := List.mem_flatMap.mp hanswer
  rw [bucketChecks_eq] at hbucket
  split at hbucket
  · obtain ⟨_, -, _, -, hdenial, -⟩ := overQuota_of_mem_walkBucket hbucket
    cases hdenial
  · obtain ⟨prepared, -, hprepared⟩ := List.mem_map.mp hbucket
    cases hprepared

private theorem mem_ids_walkChecks_iff {id : TaskId} :
    id ∈ (walkChecks set sizes scope).map Prod.fst ↔
      ∃ task ∈ walked set scope, task.id = id := by
  rw [walkChecks, List.map_flatMap, List.mem_flatMap]
  constructor
  · rintro ⟨bucket, -, hid⟩
    obtain ⟨answer, hanswer, rfl⟩ := List.mem_map.mp hid
    obtain ⟨task, htask, hid, -⟩ := exists_of_mem_bucketChecks hanswer
    exact ⟨task, htask, hid⟩
  · rintro ⟨task, htask, rfl⟩
    refine ⟨QuotaBucket.ofTask task, mem_buckets_iff.mpr ⟨task, htask, rfl⟩, ?_⟩
    rw [ids_bucketChecks.mem_iff]
    exact List.mem_map_of_mem (mem_bucketMembers_iff.mpr ⟨htask, rfl⟩)

/-- A walk judges the latest attempts that it covers. -/
theorem judges_walk (hids : (set.tasks.map PreparedTask.id).Nodup) :
    (walk set sizes scope).Judges set fun task =>
      scope.includes task.task ∧ task.isChainHead := by
  rw [walk_eq]
  apply RuleVerdict.judges_ofChecks (nodup_ids_walkChecks hids)
  · intro id
    simp only [mem_ids_walkChecks_iff, walked, List.mem_filter,
      Bool.and_eq_true, and_assoc]
  · exact notEvaluated_not_mem_walkChecks

end QuotaAdmission

section Rules

variable {set : WorkingSet} {sizes : PartitionSizes}

/-- Whether the chain of every scheduled task has a latest attempt. -/
def WorkingSet.HasHeads (set : WorkingSet) : Prop :=
  ∀ task ∈ set.tasks, task.task.isScheduled →
    ∃ head ∈ set.tasks, head.isChainHead ∧ head.task.chainId = task.task.chainId

theorem isSome_chainHeads {task head : PreparedTask} (hhead : head ∈ set.tasks)
    (hisHead : head.isChainHead)
    (hchain : head.task.chainId = task.task.chainId) :
    ∃ id, set.chainHeads.get? task.task.chainId = some id := by
  rw [← Option.ne_none_iff_exists']
  intro hnone
  refine OrderedMap.get?_ofList_eq_none_iff.mp hnone
    (head.task.chainId, head.id) ?_ hchain
  exact List.mem_map_of_mem (List.mem_filter.mpr ⟨hhead, hisHead⟩)

/-- A scheduled task is judged by its quota only if it is the latest attempt of
its chain, and then the walk has judged it. -/
theorem keepRunningCheck_ne_notEvaluated
    (hids : (set.tasks.map PreparedTask.id).Nodup) (hheads : set.HasHeads)
    {task : PreparedTask} (htask : task ∈ set.tasks)
    (hscheduled : task.task.isScheduled) :
    keepRunningCheck set (QuotaAdmission.walk set sizes .scheduled) task ≠
      .denied .notEvaluated := by
  intro hdenied
  cases hisHead : task.isChainHead with
  | true =>
    rw [keepRunningCheck, if_pos hisHead] at hdenied
    cases hconflict : set.conflicts.get? task.id with
    | some conflict =>
      rw [hconflict] at hdenied
      cases hdenied
    | none =>
      rw [hconflict] at hdenied
      have hunjudged := eq_of_tightened_eq_denied hdenied fun _ _ _ => by simp
      have hjudges : (QuotaAdmission.walk set sizes .scheduled).Judges set _ :=
        QuotaAdmission.judges_walk hids
      exact hjudges.check_eq_notEvaluated_iff.mp hunjudged
        ⟨task, htask, ⟨hscheduled, hisHead⟩, rfl⟩
  | false =>
    obtain ⟨head, hhead, hheadIsHead, hchain⟩ := hheads task htask hscheduled
    obtain ⟨newer, hnewer⟩ := isSome_chainHeads hhead hheadIsHead hchain
    simp [keepRunningCheck, hisHead, hnewer] at hdenied

theorem startCheck_ne_notEvaluated (task : PreparedTask) :
    startCheck set task ≠ .denied .notEvaluated := by
  unfold startCheck
  repeat' split
  all_goals simp

/-- The scopes of the three rules. -/
structure Verdicts.JudgeScopes (verdicts : Verdicts) (set : WorkingSet) :
    Prop where
  withinLimits : verdicts.withinLimits.Judges set fun task =>
    (task.task.isScheduled ∨ task.task.isQueued) ∧ task.isChainHead
  running : verdicts.running.Judges set fun task => task.task.isScheduled
  waiting : verdicts.waiting.Judges set fun task => task.task.isQueued

theorem judgeScopes_under (hids : (set.tasks.map PreparedTask.id).Nodup)
    (hheads : set.HasHeads) (sizes : PartitionSizes) :
    (Verdicts.under set sizes).JudgeScopes set where
  withinLimits := by
    have hwalk : (Verdicts.under set sizes).withinLimits.Judges set _ :=
      QuotaAdmission.judges_walk hids
    simpa only [WalkScope.includes, Bool.or_eq_true] using hwalk
  running := RuleVerdict.judges_filter_map hids fun _ htask hscheduled =>
    keepRunningCheck_ne_notEvaluated hids hheads htask hscheduled
  waiting :=
    RuleVerdict.judges_filter_map hids fun task _ _ =>
      startCheck_ne_notEvaluated task

end Rules

end ClusterTick
