import ClusterTick.Proofs.Match.Overtaking

/-!
# A pass without preemption

A preemption always takes a victim: it is tried only where the free nodes are
too few, so to suspend nobody would not make room.  Where it is given up, it
leaves nothing behind.  So a pass that may preempt and suspends nobody whom the
rules let run is the same pass, turn by turn, as one that may not.
-/

namespace ClusterTick

namespace MatchState

variable {state : MatchState} {candidate : Candidate} {valid : Bool}

/-- To suspend nobody would not make enough room. -/
theorem ne_nil_of_victims? {priority : Int32} {needed : Nat}
    {victims : List TaskId} (hshort : state.freeCount < needed)
    (hvictims : state.victims? priority needed = some victims) :
    victims ≠ [] := by
  obtain ⟨taken, rfl, -, -, henough, -⟩ := victims?_eq_some hvictims
  intro hnobody
  rw [List.map_eq_nil_iff.mp hnobody, List.map_nil, List.sum_nil] at henough
  omega

/-- Whoever is preempted is no holder any more. -/
theorem holders_preempt (hholders : (state.holders.map Holder.id).Nodup)
    (hrows : (state.decisions.map Task.id).Nodup) {priority : Int32}
    {needed : Nat} {victims : List TaskId}
    (hvictims : state.victims? priority needed = some victims)
    (preemptor : TaskId) :
    victims ⊆ state.holders.map Holder.id ∧
      (state.preempt preemptor victims).1.holders =
        state.holders.filter fun holder => holder.id ∉ victims := by
  obtain ⟨taken, rfl, hsub, -, -, -⟩ := victims?_eq_some hvictims
  have hdistinct := nodup_ids_of_subperm hholders hsub
  refine ⟨List.map_subset _ hsub.subset, ?_⟩
  rw [preempt_eq hholders hrows hdistinct fun _ hvictim => hsub.subset hvictim,
    holders_dismissAll]

/-- A placement after which everybody holds on has preempted nobody. -/
theorem placeTraining_of_spared (hholders : (state.holders.map Holder.id).Nodup)
    (hrows : (state.decisions.map Task.id).Nodup)
    (hspared : state.holders ⊆ (state.placeTraining valid candidate).holders) :
    state.placeTraining valid candidate =
      state.placeTraining false candidate := by
  simp only [placeTraining] at hspared ⊢
  cases hfree : Placement.selectNodes state.freeNodes []
    candidate.task.nodes.toNat with
  | some chosen => rfl
  | none =>
    have hshort : state.freeCount < candidate.task.nodes.toNat := by
      rwa [Placement.selectNodes_eq_none_iff, ← freeCount_eq_length] at hfree
    cases valid with
    | false => rfl
    | true =>
      cases hvictims : state.victims? candidate.prepared.effectivePriority
          candidate.task.nodes.toNat with
      | none => simp
      | some victims =>
        obtain ⟨hsubset, hleft⟩ :=
          holders_preempt hholders hrows hvictims candidate.id
        have hkept :
            state.holders ⊆ (state.preempt candidate.id victims).1.holders := by
          simp only [hfree, hvictims, if_true] at hspared
          split at hspared <;> exact hspared
        obtain ⟨victim, hvictim⟩ :=
          List.exists_mem_of_ne_nil _ (ne_nil_of_victims? hshort hvictims)
        obtain ⟨holder, hholder, rfl⟩ := List.mem_map.mp (hsubset hvictim)
        have hstays := hkept hholder
        rw [hleft, List.mem_filter, decide_eq_true_eq] at hstays
        exact absurd hvictim hstays.2

theorem attend_of_spared {pass : MatchPass}
    (hholders : (state.holders.map Holder.id).Nodup)
    (hrows : (state.decisions.map Task.id).Nodup)
    (hspared : state.holders ⊆ (state.attend pass valid candidate).holders) :
    state.attend pass valid candidate = state.attend pass false candidate := by
  cases pass with
  | validation => rfl
  | training =>
    simp only [attend] at hspared ⊢
    split
    · rfl
    case isFalse hqueued =>
      split
      case isTrue hplaceable =>
        rw [if_neg hqueued, if_pos hplaceable] at hspared
        exact placeTraining_of_spared hholders hrows hspared
      · rfl

end MatchState

namespace Ruling

variable {partition : Partition} {pass : MatchPass} {rows : List Task}
  {candidate : Candidate}
variable {row : Task}

/-- A scheduled task that the rules turn down is suspended, and told why. -/
theorem eq_of_denied (hruling : Ruling partition pass rows candidate row)
    (hscheduled : candidate.task.isScheduled) {denial : Denial}
    (hrunning : candidate.verdict.running = .denied denial) :
    row = candidate.task.withDecision .suspend .cannotRun denial.message := by
  cases hruling with
  | suspended _ hdenied =>
    obtain rfl : denial = _ := Check.denied.inj (hrunning.symm.trans hdenied)
    rfl
  | kept _ happroved | preempted _ happroved => simp [happroved] at hrunning
  | infeasible hwaiting | heldBack hwaiting | started hwaiting
  | waiting hwaiting =>
    simp [hscheduled] at hwaiting

/-- Without preemption, only the rules take nodes from a task. -/
theorem running_of_restrained
    (hruling : Ruling partition pass rows candidate row)
    (hvalid : partition.valid = false)
    (hscheduled : candidate.task.isScheduled) :
    row.processResult = .keepRunning ∧ candidate.verdict.running = .approved ∨
      ∃ denial, candidate.verdict.running = .denied denial ∧
        row =
          candidate.task.withDecision .suspend .cannotRun denial.message := by
  cases hruling with
  | kept _ hrunning => exact Or.inl ⟨rfl, hrunning⟩
  | suspended _ hrunning => exact Or.inr ⟨_, hrunning, rfl⟩
  | preempted _ _ _ hmay => simp [hvalid] at hmay
  | infeasible hwaiting | heldBack hwaiting | started hwaiting
  | waiting hwaiting =>
    simp [hscheduled] at hwaiting

end Ruling

namespace Partition

/-- The partition with preemption off. -/
def restrained (partition : Partition) : Partition :=
  { partition with valid := false }

/-- Whether a pass leaves their nodes to all tasks that the rules let run. -/
def Spares (partition : Partition) (pass : MatchPass) : Prop :=
  ∀ candidate ∈ partition.decided pass, candidate.task.isScheduled →
    candidate.verdict.running = .approved → ∀ row ∈ (partition.run pass).tasks,
    row.id = candidate.id → row.processResult ≠ .suspend

variable {partition : Partition} {pass : MatchPass}

/-- A holder stays one at the turn of another task, as long as its row is no
suspension in the end. -/
theorem holder_stays (hsound : partition.Sound pass)
    {done rest : List Candidate} {candidate : Candidate}
    (hagenda : partition.agenda pass = done ++ candidate :: rest)
    {holder : Holder} (hholder : holder ∈ (partition.walk pass done).holders)
    {row : Task} (hrow : row ∈ (partition.run pass).tasks)
    (hid : row.id = holder.id) (hnot : row.processResult ≠ .suspend) :
    holder ∈ (partition.walk pass (done ++ [candidate])).holders := by
  have hturn : partition.agenda pass = (done ++ [candidate]) ++ rest := by
    simp [hagenda]
  obtain ⟨hdecided, hdistinct, -⟩ := hsound.firstTurns hagenda
  obtain ⟨-, hturnIds, -⟩ := hsound.firstTurns hturn
  obtain ⟨htracks, -⟩ := tracks_walk hsound hdecided hdistinct
  obtain ⟨kept, hkept, rfl, -⟩ := htracks.kept holder hholder
  have hstood : row ∈ (partition.walk pass (done ++ [candidate])).decisions :=
    mem_walk_of_mem_run hsound hturn (List.mem_append_left _ hkept) hrow hid
      hnot
  rcases (htracks.turn_walk hsound hdecided hdistinct).of_not_suspended hstood
      hnot with
    ⟨-, hstays⟩ | hdecides
  · exact hstays _ hholder hid.symm
  · have hsame : kept.id = candidate.id :=
      hid.symm.trans (Task.id_eq_of_request hdecides.request)
    rw [List.map_append, List.nodup_append'] at hturnIds
    exact absurd (List.mem_map_of_mem hkept) fun hmem =>
      hturnIds.2.2 hmem (by simp [hsame])

/-- Whoever holds nodes at some point of a pass that spares holds them after the
next turn, too. -/
theorem Spares.holders_subset (hspares : partition.Spares pass)
    (hsound : partition.Sound pass) {done rest : List Candidate}
    {candidate : Candidate}
    (hagenda : partition.agenda pass = done ++ candidate :: rest) :
    (partition.walk pass done).holders ⊆
      (partition.walk pass (done ++ [candidate])).holders := by
  intro holder hholder
  obtain ⟨hdecided, hdistinct, -⟩ := hsound.firstTurns hagenda
  obtain ⟨htracks, -⟩ := tracks_walk hsound hdecided hdistinct
  obtain ⟨kept, hkept, rfl, hscheduled, hrunning, -⟩ :=
    htracks.kept holder hholder
  have hmem : kept.id ∈ (partition.run pass).tasks.map Task.id :=
    (settles_run hsound).ids.mem_iff.mpr (List.mem_map_of_mem (hdecided hkept))
  obtain ⟨row, hrow, hid⟩ := List.mem_map.mp hmem
  exact holder_stays hsound hagenda hholder hrow hid
    (hspares kept (hdecided hkept) hscheduled hrunning row hrow hid)

theorem Spares.walk_restrained (hspares : partition.Spares pass)
    (hsound : partition.Sound pass) {done rest : List Candidate}
    (hagenda : partition.agenda pass = done ++ rest) :
    partition.restrained.walk pass done = partition.walk pass done := by
  induction done using List.reverseRecOn generalizing rest with
  | nil => rfl
  | append_singleton done candidate ih =>
    rw [List.append_assoc, List.singleton_append] at hagenda
    obtain ⟨hdecided, hdistinct, -⟩ := hsound.firstTurns hagenda
    obtain ⟨htracks, -⟩ := tracks_walk hsound hdecided hdistinct
    have hstays := hspares.holders_subset hsound hagenda
    rw [walk_append_singleton] at hstays
    rw [walk_append_singleton, ih hagenda, walk_append_singleton]
    exact (MatchState.attend_of_spared htracks.holders
      (htracks.nodup_rows hdistinct) hstays).symm

/-- A pass that spares everybody whom the rules let run is the pass without
preemption. -/
theorem Spares.run_restrained (hspares : partition.Spares pass)
    (hsound : partition.Sound pass) :
    partition.restrained.run pass = partition.run pass := by
  have hagenda : partition.restrained.agenda pass = partition.agenda pass := rfl
  rw [run_eq, hagenda, hspares.walk_restrained hsound (List.append_nil _).symm,
    run_eq]

end Partition

end ClusterTick
