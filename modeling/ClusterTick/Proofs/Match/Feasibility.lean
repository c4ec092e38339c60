import ClusterTick.Proofs.Match.Ruling

/-!
# Tasks that are too large

A pass lists the queued tasks that ask for more nodes than the partition has,
and no others.
-/

namespace ClusterTick

namespace MatchState

@[simp]
theorem infeasible_dismissAll (state : MatchState) (preemptor : TaskId)
    (victims : List Holder) :
    (state.dismissAll preemptor victims).infeasible = state.infeasible := by
  induction victims generalizing state with
  | nil => rfl
  | cons victim rest ih =>
    rw [dismissAll, List.foldl_cons]
    exact ih (state.dismiss preemptor victim)

variable {pass : MatchPass} {valid : Bool} {state next : MatchState}
  {candidate : Candidate}

/-- A turn lists the task if it is queued and too large. -/
theorem Turn.infeasible_eq (hturn : Turn pass valid state candidate next) :
    next.infeasible =
      state.infeasible ++
        ([candidate].filter fun candidate =>
            !candidate.task.isScheduled &&
              state.isInfeasible candidate.task).map Candidate.id := by
  have hfits : state.isPlaceable candidate →
      state.isInfeasible candidate.task = false := by
    intro hplaceable
    rw [isPlaceable, Bool.and_eq_true, Bool.not_eq_true'] at hplaceable
    exact hplaceable.1
  cases hturn with
  | keep hscheduled => simp [keep_eq, hscheduled]
  | suspend hscheduled => simp [suspend_eq, release, hscheduled]
  | reject hwaiting hlarge =>
    have hid : candidate.task.id = candidate.id := rfl
    simp [rejectInfeasible_eq, hwaiting, hlarge, hid]
  | holdBack _ hsmall => simp [holdBack_eq, hsmall]
  | start _ hplaceable => simp [start_eq, hfits hplaceable]
  | preempt _ hplaceable => simp [start_eq, hfits hplaceable]
  | wait _ hplaceable => simp [wait_eq, hfits hplaceable]

end MatchState

namespace Partition

variable {partition : Partition} {pass : MatchPass}

/-- Whether a task is queued and asks for more nodes than the partition has. -/
def isTooLarge (partition : Partition) (candidate : Candidate) : Bool :=
  !candidate.task.isScheduled &&
    decide (partition.nodes.length < candidate.task.nodes.toNat)

private theorem infeasible_walk (hsound : partition.Sound pass)
    {done : List Candidate} (hdone : done ⊆ partition.decided pass)
    (hdistinct : (done.map Candidate.id).Nodup) :
    (partition.walk pass done).infeasible =
      (done.filter partition.isTooLarge).map Candidate.id := by
  induction done using List.reverseRecOn with
  | nil => rfl
  | append_singleton done candidate ih =>
    have hearlier : done ⊆ partition.decided pass := fun _ hmem =>
      hdone (List.mem_append_left _ hmem)
    have hearlierIds :=
      hdistinct.sublist ((List.sublist_append_left done [candidate]).map _)
    obtain ⟨htracks, -⟩ := tracks_walk hsound hearlier hearlierIds
    have hlarge :
        (fun candidate : Candidate =>
            !candidate.task.isScheduled &&
              (partition.walk pass done).isInfeasible candidate.task) =
          partition.isTooLarge := by
      funext candidate
      rw [MatchState.isInfeasible, htracks.active_eq, isTooLarge]
    have hturn : MatchState.Turn pass partition.valid (partition.walk pass done)
        candidate (partition.walk pass (done ++ [candidate])) :=
      htracks.turn_walk hsound hearlier hearlierIds
    rw [hturn.infeasible_eq, hlarge, ih hearlier hearlierIds,
      List.filter_append, List.map_append]

/-- A pass lists exactly the tasks that are too large. -/
theorem mem_run_infeasible_iff (hsound : partition.Sound pass) {id : TaskId} :
    id ∈ (partition.run pass).infeasible ↔
      ∃ candidate ∈ partition.decided pass, candidate.id = id ∧
        partition.isTooLarge candidate := by
  have hagenda := partition.agenda_perm pass
  have hlisted : (partition.run pass).infeasible =
      ((partition.agenda pass).filter partition.isTooLarge).map
        Candidate.id := by
    rw [run_eq]
    exact infeasible_walk hsound hagenda.subset hsound.nodup_agenda
  rw [hlisted, List.mem_map]
  simp only [List.mem_filter, hagenda.mem_iff]
  constructor
  · rintro ⟨candidate, ⟨hcandidate, hlarge⟩, hid⟩
    exact ⟨candidate, hcandidate, hid, hlarge⟩
  · rintro ⟨candidate, hcandidate, hid, hlarge⟩
    exact ⟨candidate, ⟨hcandidate, hlarge⟩, hid⟩

end Partition

end ClusterTick
