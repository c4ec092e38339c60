import ClusterTick.Proofs.Order.OrderedMap
import ClusterTick.Rules.Eligibility

/-!
# What an approval says

A rule approves a task exactly if one of its answers for the task is an
approval.  From there, what each rule has checked about the tasks that it
approves.
-/

namespace ClusterTick

namespace RuleVerdict

private theorem passes_record (verdict : RuleVerdict) (judged id : TaskId)
    (check : Check) :
    (verdict.record judged check).passes id = true ↔
      verdict.passes id = true ∨ (id, Check.approved) = (judged, check) := by
  cases check with
  | approved =>
    simp only [record, approve, passes, OrderedMap.contains,
      OrderedMap.get?_insert]
    by_cases hsame : id = judged <;> simp [hsame]
  | denied denial => simp [record, deny, passes]

theorem passes_foldl_record (verdict : RuleVerdict)
    (checks : List (TaskId × Check)) (id : TaskId) :
    (checks.foldl (fun verdict (id, check) => verdict.record id check)
            verdict).passes id = true ↔
      verdict.passes id = true ∨ (id, Check.approved) ∈ checks := by
  induction checks generalizing verdict with
  | nil => simp
  | cons answer rest ih =>
    rw [List.foldl_cons, ih, passes_record, or_assoc, List.mem_cons]

/-- A task is approved exactly if an answer for it is an approval. -/
theorem check_ofChecks_eq_approved_iff {checks : List (TaskId × Check)}
    {id : TaskId} :
    (ofChecks checks).check id = .approved ↔ (id, Check.approved) ∈ checks := by
  have hpasses :
      (ofChecks checks).passes id = true ↔ (id, Check.approved) ∈ checks := by
    rw [ofChecks, passes_foldl_record]
    simp [passes, OrderedMap.contains]
  rw [← hpasses, check]
  split <;> simp_all

private theorem get?_denials_record (verdict : RuleVerdict) (judged id : TaskId)
    (check : Check) {denial : Denial}
    (hdenied : (verdict.record judged check).denials.get? id = some denial) :
    verdict.denials.get? id = some denial ∨
      (id, Check.denied denial) = (judged, check) := by
  cases check with
  | approved => exact Or.inl hdenied
  | denied reason =>
    simp only [record, deny, OrderedMap.get?_insert] at hdenied
    split at hdenied
    case isTrue hsame =>
      obtain rfl := Option.some.inj hdenied
      exact Or.inr (by rw [hsame])
    · exact Or.inl hdenied

private theorem get?_denials_foldl_record (verdict : RuleVerdict)
    (checks : List (TaskId × Check)) {id : TaskId} {denial : Denial}
    (hdenied : (checks.foldl
          (fun verdict (id, check) => verdict.record id check)
          verdict).denials.get? id = some denial) :
    verdict.denials.get? id = some denial ∨
      (id, Check.denied denial) ∈ checks := by
  induction checks generalizing verdict with
  | nil => exact Or.inl hdenied
  | cons answer rest ih =>
    rcases ih _ hdenied with hearlier | hlater
    · rcases get?_denials_record verdict answer.1 id answer.2 hearlier with
        hbefore | hnow
      · exact Or.inl hbefore
      · exact Or.inr (hnow ▸ List.mem_cons_self)
    · exact Or.inr (List.mem_cons_of_mem _ hlater)

/-- Every denial is an answer. -/
theorem mem_of_mem_denied {checks : List (TaskId × Check)} {id : TaskId}
    {denial : Denial} (hdenied : (id, denial) ∈ (ofChecks checks).denied) :
    (id, Check.denied denial) ∈ checks := by
  rcases get?_denials_foldl_record {} checks
      (OrderedMap.get?_eq_some_iff.mpr hdenied) with
    hbefore | hanswer
  · cases hbefore
  · exact hanswer

/-- A denial is an answer, or says that the rule has not judged the task. -/
theorem mem_of_check_eq_denied {checks : List (TaskId × Check)} {id : TaskId}
    {denial : Denial} (hdenied : (ofChecks checks).check id = .denied denial) :
    denial = .notEvaluated ∨ (id, Check.denied denial) ∈ checks := by
  unfold check at hdenied
  split at hdenied
  · cases hdenied
  · cases hreason : (ofChecks checks).denials.get? id with
    | none =>
      rw [hreason] at hdenied
      exact Or.inl (Check.denied.inj hdenied).symm
    | some reason =>
      rw [hreason] at hdenied
      obtain rfl := Check.denied.inj hdenied
      exact Or.inr (mem_of_mem_denied (OrderedMap.get?_eq_some_iff.mp hreason))

end RuleVerdict

theorem Check.andThen_eq_approved_iff {first second : Check} :
    first.andThen second = .approved ↔
      first = .approved ∧ second = .approved := by
  cases first <;> simp [andThen]

theorem Check.andThen_eq_denied {first second : Check} {denial : Denial}
    (hdenied : first.andThen second = .denied denial) :
    first = .denied denial ∨ second = .denied denial := by
  cases first with
  | approved => exact Or.inr hdenied
  | denied reason => exact Or.inl hdenied

theorem Check.passes_iff {check : Check} :
    check.passes = true ↔ check = .approved := by
  cases check <;> simp [passes]

theorem tightened_eq_approved_iff {check : Check} :
    tightened check = .approved ↔ check = .approved := by
  cases check with
  | approved => simp [tightened]
  | denied denial => cases denial <;> simp [tightened]

/-- Only a task over its quota is told of a lowered one. -/
theorem eq_of_tightened_eq_denied {check : Check} {denial : Denial}
    (hdenied : tightened check = .denied denial)
    (hquota : ∀ held requested ceiling,
      denial ≠ .quotaTightened held requested ceiling) :
    check = .denied denial := by
  cases check with
  | approved => cases hdenied
  | denied reason =>
    cases reason with
    | overQuota => exact absurd (Check.denied.inj hdenied).symm (hquota _ _ _)
    | _ => exact hdenied

variable {set : WorkingSet} {sizes : PartitionSizes}

/-- A task that keeps its nodes has no conflict, and the quota of the scheduled
tasks alone entitles it. -/
theorem keepRunningCheck_eq_approved {entitled : RuleVerdict}
    {prepared : PreparedTask}
    (happroved : keepRunningCheck set entitled prepared = .approved) :
    set.conflicts.get? prepared.id = none ∧
      entitled.check prepared.id = .approved := by
  simp only [keepRunningCheck] at happroved
  cases hconflict : set.conflicts.get? prepared.id with
  | some conflict =>
    rw [hconflict] at happroved
    split at happroved
    · cases happroved
    · split at happroved <;> cases happroved
  | none =>
    rw [hconflict] at happroved
    refine ⟨rfl, tightened_eq_approved_iff.mp ?_⟩
    split at happroved
    · exact happroved
    · split at happroved
      · cases happroved
      · exact happroved

/-- A scheduled head of a chain keeps its nodes if it has no conflict and the
quota entitles it. -/
theorem keepRunningCheck_of_entitled {entitled : RuleVerdict}
    {prepared : PreparedTask}
    (hconflict : set.conflicts.get? prepared.id = none)
    (hhead : prepared.isChainHead)
    (hentitled : entitled.check prepared.id = .approved) :
    keepRunningCheck set entitled prepared = .approved := by
  simp [keepRunningCheck, hconflict, hhead, hentitled, tightened]

theorem mayKeepRunning_eq_approved {id : TaskId}
    (happroved : (mayKeepRunning set sizes).check id = .approved) :
    ∃ prepared ∈ set.tasks, prepared.id = id ∧ prepared.task.isScheduled ∧
      set.conflicts.get? id = none ∧
      (QuotaAdmission.walk set sizes .scheduled).check id = .approved := by
  rw [mayKeepRunning, RuleVerdict.check_ofChecks_eq_approved_iff,
    List.mem_map] at happroved
  obtain ⟨prepared, hmem, hanswer⟩ := happroved
  rw [Prod.mk.injEq] at hanswer
  obtain ⟨rfl, hcheck⟩ := hanswer
  obtain ⟨htask, hscheduled⟩ := List.mem_filter.mp hmem
  exact ⟨prepared, htask, rfl, hscheduled, keepRunningCheck_eq_approved hcheck⟩

/-- A task may be started if it is the latest attempt of its chain, of a known
user, asks for nodes, and no other attempt of the chain holds any. -/
theorem startCheck_eq_approved_iff {prepared : PreparedTask} :
    startCheck set prepared = .approved ↔
      prepared.isChainHead ∧ set.users.contains prepared.task.userName ∧
        prepared.task.nodes ≠ 0 ∧
        runningAttempt? set prepared.task.chainId = none := by
  constructor
  · intro happroved
    simp only [startCheck] at happroved
    split at happroved
    · cases happroved
    · split at happroved
      · cases happroved
      · split at happroved
        · cases happroved
        · split at happroved
          · cases happroved
          · simp_all
  · intro hready
    simp [startCheck, hready]

/-- A queued task is told that its chain is running only if it heads the
chain. -/
theorem startCheck_eq_chainAlreadyRunning {prepared : PreparedTask}
    {running : TaskId}
    (hdenied : startCheck set prepared =
      .denied (.chainAlreadyRunning running)) :
    prepared.isChainHead ∧
      runningAttempt? set prepared.task.chainId = some running := by
  simp only [startCheck] at hdenied
  split at hdenied
  · cases hdenied
  · split at hdenied
    · cases hdenied
    · split at hdenied
      · cases hdenied
      · split at hdenied
        · simp_all
        · cases hdenied

theorem exists_of_runningAttempt?_eq_some {chain : ChainId} {running : TaskId}
    (hrunning : runningAttempt? set chain = some running) :
    ∃ attempt ∈ set.tasks, attempt.task.isScheduled ∧
      attempt.task.chainId = chain := by
  obtain ⟨attempt, hfound, -⟩ := Option.map_eq_some_iff.mp hrunning
  have hholds : attempt.task.isScheduled ∧ attempt.task.chainId = chain := by
    simpa using List.find?_some hfound
  exact ⟨attempt, List.mem_reverse.mp (List.mem_of_find?_eq_some hfound),
    hholds⟩

theorem mayStart_eq_approved {id : TaskId}
    (happroved : (mayStart set).check id = .approved) :
    ∃ prepared ∈ set.tasks, prepared.id = id ∧ prepared.task.isQueued ∧
      prepared.isChainHead ∧ set.users.contains prepared.task.userName ∧
      prepared.task.nodes ≠ 0 ∧
      runningAttempt? set prepared.task.chainId = none := by
  rw [mayStart, RuleVerdict.check_ofChecks_eq_approved_iff,
    List.mem_map] at happroved
  obtain ⟨prepared, hmem, hanswer⟩ := happroved
  rw [Prod.mk.injEq] at hanswer
  obtain ⟨rfl, hcheck⟩ := hanswer
  obtain ⟨htask, hqueued⟩ := List.mem_filter.mp hmem
  exact ⟨prepared, htask, rfl, hqueued, startCheck_eq_approved_iff.mp hcheck⟩

end ClusterTick
