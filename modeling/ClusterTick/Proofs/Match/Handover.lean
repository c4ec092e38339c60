import ClusterTick.Proofs.Match.Ruling

/-!
# Nodes that change hands

A task starts on free nodes only.  If a node was occupied when the pass began,
its former occupant has been suspended by then, and the row that says so stands
before the row of the start: a victim's row is rewritten at its place, which is
before the turn of the task that it makes room for.
-/

namespace ClusterTick

/-- A suspension of a task comes before a row. -/
def SuspendedBefore (rows : List Task) (id : TaskId) (row : Task) : Prop :=
  ∃ suspended, [suspended, row].Sublist rows ∧ suspended.id = id ∧
    suspended.processResult = .suspend

theorem SuspendedBefore.mono {rows more : List Task} {id : TaskId} {row : Task}
    (hbefore : SuspendedBefore rows id row) (hsub : rows.Sublist more) :
    SuspendedBefore more id row := by
  obtain ⟨suspended, hpair, hid, hresult⟩ := hbefore
  exact ⟨suspended, hpair.trans hsub, hid, hresult⟩

theorem suspendedBefore_append {earlier later : List Task}
    {suspended row : Task} (hsuspended : suspended ∈ earlier)
    (hresult : suspended.processResult = .suspend) (hrow : row ∈ later) :
    SuspendedBefore (earlier ++ later) suspended.id row :=
  ⟨suspended,
    (List.singleton_sublist.mpr hsuspended).append
      (List.singleton_sublist.mpr hrow), rfl, hresult⟩

/-- The suspension is among the rows before the row. -/
theorem SuspendedBefore.exists_mem {front back : List Task} {id : TaskId}
    {row : Task} (hdistinct : (front ++ row :: back).Nodup)
    (hbefore : SuspendedBefore (front ++ row :: back) id row) :
    ∃ suspended ∈ front, suspended.id = id ∧
      suspended.processResult = .suspend := by
  obtain ⟨suspended, hpair, hid, hresult⟩ := hbefore
  refine ⟨suspended, ?_, hid, hresult⟩
  obtain ⟨earlier, later, heq, hearlier, hlater⟩ :=
    List.cons_sublist_iff.mp hpair
  rw [List.singleton_sublist] at hlater
  rcases List.append_eq_append_iff.mp heq with
    ⟨more, rfl, hrest⟩ | ⟨more, rfl, -⟩
  · cases more with
    | nil => rwa [List.append_nil] at hearlier
    | cons head more =>
      rw [List.cons_append, List.cons.injEq] at hrest
      rw [heq, List.nodup_append'] at hdistinct
      exact absurd hlater (hdistinct.2.2 (by simp [hrest.1]))
  · exact List.mem_append_left _ hearlier

namespace Partition

variable {partition : Partition} {pass : MatchPass} {done : List Candidate}
variable {state next : MatchState} {candidate : Candidate}

/-- Whoever occupied a node at the opening is suspended before another task
starts on it. -/
def HandedOver (partition : Partition) (rows : List Task) : Prop :=
  ∀ row ∈ rows, row.processResult = .startup → ∀ name ∈ row.assignedNodes, ∀ id,
    partition.opening.Occupies id name → SuspendedBefore rows id row

/-- The scheduled tasks that have had their turn keep their nodes or are
suspended. -/
def Answered (done : List Candidate) (rows : List Task) : Prop :=
  ∀ row ∈ rows, ∀ candidate ∈ done, row.id = candidate.id →
    candidate.task.isScheduled →
    row.assignedNodes = candidate.task.assignedNodes ∧
      (row.isHolding ∨ row.processResult = .suspend)

theorem Ruled.answered {rows : List Task}
    (hruled : Ruled partition pass done rows)
    (hdone : (done.map Candidate.id).Nodup) : Answered done rows := by
  intro row hrow candidate hcandidate hid hscheduled
  obtain ⟨other, hother, hruling⟩ := hruled row hrow
  have hsame : other = candidate :=
    List.inj_on_of_nodup_map hdone hother hcandidate
      (hruling.id_eq.symm.trans hid)
  exact (hsame ▸ hruling).of_scheduled hscheduled

theorem Answered.dismissAll (hanswered : Answered done state.decisions)
    (preemptor : TaskId) (victims : List Holder) :
    Answered done (state.dismissAll preemptor victims).decisions := by
  rw [MatchState.decisions_dismissAll]
  intro row hrow candidate hcandidate hid hscheduled
  obtain ⟨before, hbefore, rfl⟩ := List.mem_map.mp hrow
  split at hid
  case isTrue hvictim =>
    rw [if_pos hvictim]
    exact ⟨(hanswered before hbefore candidate hcandidate hid hscheduled).1,
      Or.inr rfl⟩
  case isFalse hspared =>
    rw [if_neg hspared]
    exact hanswered before hbefore candidate hcandidate hid hscheduled

/-- A task that has lost a node that it occupied at the opening has been
suspended. -/
theorem Tracks.suspended_of_lost (htracks : partition.Tracks done state)
    (hsound : partition.Sound pass) (hdone : done ⊆ partition.decided pass)
    (hanswered : Answered done state.decisions) {id : TaskId} {name : NodeName}
    (hopening : partition.opening.Occupies id name)
    (hlost : ¬ state.Occupies id name) :
    ∃ row ∈ state.decisions, row.id = id ∧ row.processResult = .suspend := by
  rw [htracks.occupied, not_or] at hlost
  have hturn : id ∈ done.map Candidate.id :=
    Classical.byContradiction fun hlater => hlost.2 ⟨hlater, hopening⟩
  obtain ⟨candidate, hcandidate, rfl⟩ := List.mem_map.mp hturn
  obtain ⟨row, hrow, hid⟩ : ∃ row ∈ state.decisions, row.id = candidate.id := by
    rwa [← List.mem_map, htracks.ids]
  obtain ⟨node, hnode, hname, hworking⟩ :=
    (opening_occupies_iff hsound.names).mp hopening
  obtain ⟨hscheduled, hlisted⟩ :=
    hsound.occupant node hnode candidate (hdone hcandidate) hworking
  obtain ⟨hassigned, hholding | hsuspended⟩ :=
    hanswered row hrow candidate hcandidate hid hscheduled
  · have hpresent : name ∈ state.names := by
      rw [htracks.names]
      exact hopening.mem_names
    exact absurd
      ⟨row, hrow, hid, hholding, hassigned ▸ hname ▸ hlisted, hpresent⟩ hlost.1
  · exact ⟨row, hrow, hid, hsuspended⟩

theorem HandedOver.append {rows : List Task}
    (hhanded : HandedOver partition rows) {row : Task}
    (hrow : row.processResult = .startup → ∀ name ∈ row.assignedNodes, ∀ id,
      partition.opening.Occupies id name →
      SuspendedBefore (rows ++ [row]) id row) :
    HandedOver partition (rows ++ [row]) := by
  intro other hother hstartup name hname id hopening
  rcases List.mem_append.mp hother with hearlier | hlast
  · exact (hhanded other hearlier hstartup name hname id hopening).mono
      (List.sublist_append_left _ _)
  · obtain rfl := List.mem_singleton.mp hlast
    exact hrow hstartup name hname id hopening

/-- Rows stay handed over when holders are suspended: their rows stay in
place. -/
theorem HandedOver.dismissAll (hhanded : HandedOver partition state.decisions)
    (preemptor : TaskId) (victims : List Holder) :
    HandedOver partition (state.dismissAll preemptor victims).decisions := by
  rw [MatchState.decisions_dismissAll]
  intro row hrow hstartup name hname id hopening
  obtain ⟨before, hbefore, rfl⟩ := List.mem_map.mp hrow
  split at hstartup
  · cases hstartup
  case isFalse hspared =>
    rw [if_neg hspared] at hname ⊢
    obtain ⟨suspended, hpair, hid, hresult⟩ :=
      hhanded before hbefore hstartup name hname id hopening
    have hmapped :=
      hpair.map fun row =>
        if row.id ∈ victims.map Holder.id then
          MatchState.markPreempted preemptor row
        else
          row
    simp only [List.map_cons, List.map_nil, if_neg hspared] at hmapped
    refine ⟨_, hmapped, ?_, ?_⟩
    · split
      · exact hid
      · exact hid
    · split
      · rfl
      · exact hresult

/-- A start on free nodes takes over from nobody who has not been suspended. -/
theorem Tracks.handedOver_start (htracks : partition.Tracks done state)
    (hsound : partition.Sound pass) (hdone : done ⊆ partition.decided pass)
    (hanswered : Answered done state.decisions)
    (hhanded : HandedOver partition state.decisions) {task : Task}
    {chosen : List NodeName} (hfree : chosen ⊆ state.freeNodes.map Node.name) :
    HandedOver partition (state.start task chosen).decisions := by
  rw [MatchState.start_eq]
  apply hhanded.append
  intro _ name hname id hopening
  have hlost :=
    MatchState.not_occupies_of_free htracks.coherent (hfree hname) id
  obtain ⟨row, hrow, rfl, hresult⟩ :=
    htracks.suspended_of_lost hsound hdone hanswered hopening hlost
  exact suspendedBefore_append hrow hresult (List.mem_singleton_self _)

theorem Tracks.handedOver_turn (htracks : partition.Tracks done state)
    (hsound : partition.Sound pass) (hdone : done ⊆ partition.decided pass)
    (hdistinct : (done.map Candidate.id).Nodup)
    (hruled : Ruled partition pass done state.decisions)
    (hhanded : HandedOver partition state.decisions)
    (hturn : MatchState.Turn pass partition.valid state candidate next) :
    HandedOver partition next.decisions := by
  have hanswered := hruled.answered hdistinct
  cases hturn with
  | keep =>
    rw [MatchState.keep_eq]
    exact hhanded.append nofun
  | suspend => exact hhanded.append nofun
  | reject => exact hhanded.append nofun
  | holdBack => exact hhanded.append nofun
  | start _ _ _ hfree =>
    exact htracks.handedOver_start hsound hdone hanswered hhanded hfree.subset
  | preempt _ _ _ _ _ hvictims _ _ hfree =>
    have hdismissed := htracks.dismissAll hdistinct candidate.id hvictims.subset
    exact hdismissed.handedOver_start hsound hdone
      (hanswered.dismissAll candidate.id _) (hhanded.dismissAll candidate.id _)
      hfree.subset
  | wait => exact hhanded.append nofun

theorem handedOver_walk (hsound : partition.Sound pass)
    (hdone : done ⊆ partition.decided pass)
    (hdistinct : (done.map Candidate.id).Nodup) :
    HandedOver partition (partition.walk pass done).decisions := by
  induction done using List.reverseRecOn with
  | nil => exact fun _ hrow => absurd hrow List.not_mem_nil
  | append_singleton done candidate ih =>
    have hearlier : done ⊆ partition.decided pass := fun _ hmem =>
      hdone (List.mem_append_left _ hmem)
    rw [List.map_append, List.nodup_append'] at hdistinct
    obtain ⟨htracks, hruled⟩ := tracks_walk hsound hearlier hdistinct.1
    exact htracks.handedOver_turn hsound hearlier hdistinct.1 hruled
      (ih hearlier hdistinct.1) (htracks.turn_walk hsound hearlier hdistinct.1)

/-- In the rows of a pass, every start takes over from suspended tasks only. -/
theorem handedOver_run (hsound : partition.Sound pass) :
    HandedOver partition (partition.run pass).tasks := by
  rw [run_eq]
  exact handedOver_walk hsound (partition.agenda_perm pass).subset
    hsound.nodup_agenda

end Partition

end ClusterTick
