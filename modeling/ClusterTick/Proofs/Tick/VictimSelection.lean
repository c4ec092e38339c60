import ClusterTick.Fixture.Scenario
import ClusterTick.Proofs.Match.Victims
import ClusterTick.Proofs.Tick.Share

/-!
# Victims in the course of a tick

Victims are chosen exactly in every state that a pass comes to: while it settles
the scheduled tasks, turns down queued ones and places the others, and while it
suspends the victims of one of them.
-/

namespace ClusterTick

/-- The states that a pass comes to. -/
inductive Partition.Reached (partition : Partition) (pass : MatchPass) :
    MatchState → Prop
  | settling {done : List Candidate} (hdone : done <+: partition.holding pass) :
      Reached partition pass
        (done.foldl (MatchState.settle pass) partition.opening)
  | screening {done : List Candidate}
      (hdone : done <+: partition.waiting pass) :
      Reached partition pass
        (done.foldl MatchState.screen (partition.settled pass))
  | placing {done : List Candidate} (hdone : done <+: partition.queue pass) :
      Reached partition pass
        (done.foldl (MatchState.place pass partition.valid)
          (partition.screened pass))
  /-- Some of the victims of a task have been suspended. -/
  | suspending {state : MatchState} {candidate : Candidate}
      {victims suspended : List TaskId} (hstate : Reached partition pass state)
      (hvictims : state.victims? candidate.prepared.effectivePriority
          candidate.task.nodes.toNat = some victims)
      (hsuspended : suspended <+: victims) :
      Reached partition pass (state.preempt candidate.id suspended).1

namespace Partition

section Reached

variable {partition : Partition} {pass : MatchPass} {done : List Candidate}
  {state : MatchState}

/-- A walk that keeps to the order of the agenda is tracked. -/
theorem tracks_walk_of_sublist (hsound : partition.Sound pass)
    (hdone : done.Sublist (partition.agenda pass)) :
    partition.Tracks done (partition.walk pass done) := by
  have hdecided : done ⊆ partition.decided pass :=
    fun _ hcandidate =>
      (partition.agenda_perm pass).subset (hdone.subset hcandidate)
  exact (tracks_walk hsound hdecided
    (hsound.nodup_agenda.sublist (hdone.map _))).1

/-- What has been settled so far is the start of the walk. -/
theorem foldl_settle_eq_walk (hdone : done <+: partition.holding pass) :
    done.foldl (MatchState.settle pass) partition.opening =
      partition.walk pass done :=
  MatchState.foldl_settle_eq fun _ hcandidate =>
    partition.isScheduled_of_mem_holding pass (hdone.subset hcandidate)

/-- Then those that cannot be placed have their turns. -/
theorem foldl_screen_eq_walk (hdone : done <+: partition.waiting pass) :
    done.foldl MatchState.screen (partition.settled pass) =
      partition.walk pass
        (partition.holding pass ++
          done.filter fun candidate =>
            !partition.opening.isPlaceable candidate) := by
  rw [MatchState.foldl_screen_eq pass partition.valid, isPlaceable_settled,
    settled_eq, walk, walk, List.foldl_append]
  intro candidate hcandidate
  exact partition.isScheduled_of_mem_waiting pass (hdone.subset hcandidate)

/-- At last the others are placed. -/
theorem foldl_place_eq_walk (hdone : done <+: partition.queue pass) :
    done.foldl (MatchState.place pass partition.valid)
        (partition.screened pass) =
      partition.walk pass
        (partition.holding pass ++
          ((partition.waiting pass).filter fun candidate =>
            !partition.opening.isPlaceable candidate) ++
          done) := by
  have hqueue : ∀ candidate ∈ done, candidate ∈ partition.waiting pass ∧
      partition.opening.isPlaceable candidate :=
    fun _ hcandidate =>
      (partition.mem_queue_iff pass).mp (hdone.subset hcandidate)
  rw [screened_eq, MatchState.foldl_place_eq, walk, walk, ← List.foldl_append]
  · intro candidate hcandidate
    exact partition.isScheduled_of_mem_waiting pass
      (hqueue candidate hcandidate).1
  · intro candidate hcandidate
    rw [isPlaceable_walk]
    exact (hqueue candidate hcandidate).2

/-- Whoever has been suspended of the victims so far, the walk is tracked. -/
theorem Tracks.preempt (htracks : partition.Tracks done state)
    (hdone : (done.map Candidate.id).Nodup) {priority : Int32} {needed : Nat}
    {victims suspended : List TaskId}
    (hvictims : state.victims? priority needed = some victims)
    (hsuspended : suspended <+: victims) (preemptor : TaskId) :
    partition.Tracks done (state.preempt preemptor suspended).1 := by
  obtain ⟨chosen, rfl, hchosen, -⟩ := MatchState.victims?_eq_some hvictims
  obtain ⟨dismissed, hdismissed, rfl⟩ :=
    List.sublist_map_iff.mp hsuspended.sublist
  have hheld : dismissed.Subperm state.holders :=
    hdismissed.subperm.trans hchosen
  have hdistinct := MatchState.nodup_ids_of_subperm htracks.holders hheld
  rw [MatchState.preempt_eq htracks.holders (htracks.nodup_rows hdone) hdistinct
    fun _ hvictim => hheld.subset hvictim]
  exact htracks.dismissAll hdone preemptor hheld.subset

/-- Every state that a pass comes to is tracked. -/
theorem Reached.tracks (hsound : partition.Sound pass)
    (hstate : partition.Reached pass state) :
    ∃ done : List Candidate, done.Sublist (partition.agenda pass) ∧
      partition.Tracks done state := by
  have hwalk : ∀ {done : List Candidate}, done.Sublist (partition.agenda pass) →
      ∃ turns : List Candidate, turns.Sublist (partition.agenda pass) ∧
        partition.Tracks turns (partition.walk pass done) :=
    fun hdone => ⟨_, hdone, tracks_walk_of_sublist hsound hdone⟩
  induction hstate with
  | settling hdone =>
    rw [foldl_settle_eq_walk hdone]
    apply hwalk
    rw [agenda, List.append_assoc]
    exact hdone.sublist.trans (List.sublist_append_left _ _)
  | screening hdone =>
    rw [foldl_screen_eq_walk hdone]
    apply hwalk
    exact ((hdone.sublist.filter _).append_left _).trans
      (List.sublist_append_left _ _)
  | placing hdone =>
    rw [foldl_place_eq_walk hdone]
    exact hwalk (hdone.sublist.append_left _)
  | suspending _ hvictims hsuspended ih =>
    obtain ⟨done, hdone, htracks⟩ := ih
    have hdistinct := hsound.nodup_agenda.sublist (hdone.map _)
    exact ⟨done, hdone, htracks.preempt hdistinct hvictims hsuspended _⟩

/-- Victims are chosen exactly wherever a pass comes to. -/
theorem Reached.choosesVictims (hsound : partition.Sound pass)
    (hstate : partition.Reached pass state) {priority : Int32} {needed : Nat}
    (hneeded : state.freeCount < needed) :
    state.ChoosesVictims priority needed := by
  obtain ⟨done, hdone, htracks⟩ := hstate.tracks hsound
  have hdecided : done ⊆ partition.decided pass :=
    fun _ hcandidate =>
      (partition.agenda_perm pass).subset (hdone.subset hcandidate)
  exact MatchState.choosesVictims htracks.coherent
    (htracks.soundHolders hsound hdecided)
    (htracks.nodup_rows (hsound.nodup_agenda.sublist (hdone.map _))) hneeded

end Reached

end Partition

namespace Tick

/-- The nodes that a pass is run on: those of the working set, or for the
training pass those that the validation pass has left behind. -/
inductive RunsOn (prepared : Prepared) : MatchPass → List Node → Prop
  | workingSet (pass : MatchPass) :
      RunsOn prepared pass prepared.workingSet.nodes
  | validated : RunsOn prepared .training (validationPhase prepared).frame

section Schedule

variable (snapshot : Snapshot) (config : EngineConfig)

theorem RunsOn.ready {pass : MatchPass} {frame : List Node}
    (hframe : RunsOn (prepare snapshot config) pass frame) :
    Ready (prepare snapshot config) pass frame := by
  cases hframe with
  | workingSet => exact ready_prepare snapshot config pass
  | validated =>
    rw [validationPhase_frame]
    exact (allReady_prepare snapshot config).training

/-- In every state that a pass over a group comes to, a choice of victims is
given up exactly if all holders below the task would not make enough room, and
else none of the victims could be spared. -/
theorem choosesVictims_of_reached {pass : MatchPass} {frame : List Node}
    (hframe : RunsOn (prepare snapshot config) pass frame)
    {partition : Partition}
    (hpartition : partition ∈ partitions (prepare snapshot config) pass frame)
    {state : MatchState} (hstate : partition.Reached pass state)
    (priority : Int32) {needed : Nat} (hneeded : state.freeCount < needed) :
    state.ChoosesVictims priority needed := by
  obtain ⟨group, -, rfl⟩ := List.mem_map.mp hpartition
  exact hstate.choosesVictims (hframe.ready.sound group) hneeded

/-- Three nodes.  The least urgent task holds the first one and another task the
other two, and an urgent task waits for two nodes. -/
def sparedTask : Snapshot :=
  { group := ⟨"train"⟩ : Scenario }
    |>.addReadyNodes "n" 3 "room"
    |>.addQuotaHolder ⟨"alice"⟩ 2
    |>.addScheduled ⟨1⟩ ⟨"alice"⟩ 10 [⟨"n1"⟩]
    |>.addScheduled ⟨2⟩ ⟨"alice"⟩ 20 [⟨"n2"⟩, ⟨"n3"⟩]
    |>.addQueued ⟨3⟩ ⟨"alice"⟩ 50 2
    |>.snapshot default

/-- The training pass over the group of these tasks. -/
def sparedPartition : Partition :=
  groupPartition (prepare sparedTask {}) .training
    (validationPhase (prepare sparedTask {})).frame ⟨"train"⟩

/-- There is no validation task, so the training pass starts from the working
set. -/
theorem sparedPartition_eq :
    sparedPartition =
      groupPartition (prepare sparedTask {}) .training
        (prepare sparedTask {}).workingSet.nodes ⟨"train"⟩ := by
  rw [sparedPartition, validationPhase_frame]
  apply (allReady_prepare sparedTask {}).groupPartition_training_of_idle
  rw [mem_passGroups_iff]
  decide +kernel

/-- Both scheduled tasks may become victims, the less urgent one first. -/
theorem eligible_sparedPartition :
    (sparedPartition.screened .training).eligible 50 =
      (sparedPartition.screened .training).holders := by
  rw [sparedPartition_eq, MatchState.eligible,
    mergeSort_of_ordered MatchState.compareVictims]
  · decide +kernel
  · decide +kernel

/-- The first task is gathered first, and then spared. -/
theorem choosesVictims_of_reached_sparedTask :
    sparedPartition.Reached .training (sparedPartition.screened .training) ∧
      (sparedPartition.screened .training).freeCount < 2 ∧
      ((sparedPartition.screened .training).eligible 50).map Holder.id =
        [⟨1⟩, ⟨2⟩] ∧
      (sparedPartition.screened .training).victims? 50 2 = some [⟨2⟩] ∧
      (sparedPartition.screened .training).victims? 50 4 = none ∧
      (sparedPartition.screened .training).ChoosesVictims 50 2 := by
  have hpartition : sparedPartition ∈
      partitions (prepare sparedTask {}) .training
        (validationPhase (prepare sparedTask {})).frame :=
    List.mem_map_of_mem (mem_passGroups_iff.mpr (by decide +kernel))
  have hreached :
      sparedPartition.Reached .training (sparedPartition.screened .training) :=
    .placing List.nil_prefix
  have hshort : (sparedPartition.screened .training).freeCount < 2 := by
    rw [sparedPartition_eq]
    decide +kernel
  refine ⟨hreached, hshort, ?_, ?_, ?_, ?_⟩
  · rw [eligible_sparedPartition, sparedPartition_eq]
    decide +kernel
  · rw [MatchState.victims?, eligible_sparedPartition, sparedPartition_eq]
    decide +kernel
  · rw [MatchState.victims?, eligible_sparedPartition, sparedPartition_eq]
    decide +kernel
  · exact choosesVictims_of_reached sparedTask {} .validated hpartition hreached
      50 hshort

end Schedule

end Tick

end ClusterTick
