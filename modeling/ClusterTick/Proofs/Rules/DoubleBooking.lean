import ClusterTick.Proofs.Rules.Answers

/-!
# Who is told that a node is taken

Only the rule on scheduled tasks turns a task down for a node that is held, and
only a task with a conflict, whose node and holder it names.
-/

namespace ClusterTick

/-- The denials that speak of a node held by another task. -/
def Denial.IsDoubleBooking : Denial → Prop
  | .doubleBooked _ _ => True
  | _ => False

namespace QuotaAdmission

/-- A quota walk turns nobody down for a node that is held. -/
theorem not_doubleBooking_walk {set : WorkingSet} {sizes : PartitionSizes}
    {scope : WalkScope} {id : TaskId} {denial : Denial}
    (hdenied : (walk set sizes scope).check id = .denied denial) :
    ¬ denial.IsDoubleBooking := by
  rcases RuleVerdict.mem_of_check_eq_denied hdenied with rfl | hanswer
  · exact fun h => h
  · obtain ⟨bucket, -, hbucket⟩ := List.mem_flatMap.mp hanswer
    unfold bucketChecks at hbucket
    split at hbucket
    · obtain ⟨_, -, _, -, rfl, -⟩ := overQuota_of_mem_walkBucket hbucket
      exact fun h => h
    · obtain ⟨prepared, -, hprepared⟩ := List.mem_map.mp hbucket
      cases hprepared
      exact fun h => h

end QuotaAdmission

variable {set : WorkingSet} {sizes : PartitionSizes} {id : TaskId}
  {denial : Denial}

/-- The rule on queued tasks turns nobody down for a node that is held. -/
theorem not_doubleBooking_mayStart
    (hdenied : (mayStart set).check id = .denied denial) :
    ¬ denial.IsDoubleBooking := by
  rcases RuleVerdict.mem_of_check_eq_denied hdenied with rfl | hanswer
  · exact fun h => h
  · obtain ⟨prepared, -, hprepared⟩ := List.mem_map.mp hanswer
    have hcheck := congrArg Prod.snd hprepared
    simp only [startCheck] at hcheck
    repeat' split at hcheck
    all_goals cases hcheck
    all_goals exact fun h => h

/-- A task that has not been superseded is answered for its conflict, or else
for its quota. -/
theorem keepRunningCheck_eq_or (entitled : RuleVerdict)
    (prepared : PreparedTask) :
    (∃ head,
        keepRunningCheck set entitled prepared = .denied (.superseded head)) ∨
      keepRunningCheck set entitled prepared =
        match set.conflicts.get? prepared.id with
        | some conflict => .denied (.doubleBooked conflict.node conflict.holder)
        | none => tightened (entitled.check prepared.id) := by
  cases hhead : prepared.isChainHead with
  | true => exact Or.inr (if_pos hhead)
  | false =>
    cases hnewer : set.chainHeads.get? prepared.task.chainId with
    | some head =>
      exact Or.inl ⟨head, by simp [keepRunningCheck, hhead, hnewer]⟩
    | none =>
      exact Or.inr ((if_neg (Bool.eq_false_iff.mp hhead)).trans (hnewer ▸ rfl))

private theorem conflict_of_keepRunningCheck {entitled : RuleVerdict}
    {prepared : PreparedTask}
    (hentitled : ∀ reason, entitled.check prepared.id = .denied reason →
      ¬ reason.IsDoubleBooking)
    {node : NodeName} {holder : TaskId}
    (hdenied : keepRunningCheck set entitled prepared =
      .denied (.doubleBooked node holder)) :
    set.conflicts.get? prepared.id = some ⟨node, holder⟩ := by
  rcases keepRunningCheck_eq_or entitled prepared with
    ⟨head, hsuperseded⟩ | hanswer
  · cases hsuperseded.symm.trans hdenied
  rw [hanswer] at hdenied
  cases hconflict : set.conflicts.get? prepared.id with
  | some conflict =>
    rw [hconflict] at hdenied
    cases hdenied
    rfl
  | none =>
    rw [hconflict] at hdenied
    have hentitledDenied :=
      eq_of_tightened_eq_denied hdenied fun _ _ _ => by simp
    exact absurd trivial (hentitled _ hentitledDenied)

/-- A scheduled task that is turned down for a node that is held has a conflict,
which names the node and its holder. -/
theorem conflict_of_mayKeepRunning {node : NodeName} {holder : TaskId}
    (hdenied : (mayKeepRunning set sizes).check id =
      .denied (.doubleBooked node holder)) :
    set.conflicts.get? id = some ⟨node, holder⟩ := by
  rcases RuleVerdict.mem_of_check_eq_denied hdenied with hunjudged | hanswer
  · cases hunjudged
  · obtain ⟨prepared, -, hprepared⟩ := List.mem_map.mp hanswer
    obtain ⟨rfl, hcheck⟩ := Prod.mk.inj hprepared
    exact conflict_of_keepRunningCheck
      (fun _ => QuotaAdmission.not_doubleBooking_walk) hcheck

end ClusterTick
