import ClusterTick.Proofs.Match.Ruling
import ClusterTick.Proofs.Order.Sorting
import Mathlib.Algebra.Order.BigOperators.Group.List
import Mathlib.Algebra.Order.Group.Nat

/-!
# What a task can still get

A waiting task can get the free nodes, and those that the holders below it would
give back.  The queue is walked from the most urgent task down, so whoever comes
later takes nodes that were within reach already and suspends nobody else.  What
is within reach of a task that was turned away therefore never grows again: it
is too little at the end of the pass, too.
-/

namespace ClusterTick

/-- Whether a row says that the task is admitted and waits for room. -/
def Task.isWaiting (row : Task) : Bool :=
  row.processResult = .notSure && row.schedulerResult = .canRun

/-- Whether a pass may suspend a task to make room for another one. -/
def MatchPass.preempts (pass : MatchPass) (valid : Bool) : Bool :=
  valid && pass = .training

namespace MatchState

/-- The holders that would give way to a task of the given priority. -/
def yielding (state : MatchState) (preempts : Bool) (priority : Int32) :
    List Holder :=
  if preempts then state.eligible priority else []

/-- The nodes within reach of a task of the given priority. -/
def reachable (state : MatchState) (preempts : Bool) (priority : Int32) :
    List NodeName :=
  state.freeNodes.map Node.name ++
    (state.yielding preempts priority).flatMap state.usableNames

section Hopeless

variable {state : MatchState} {priority : Int32} {needed available : Nat}

theorem eligible_perm (state : MatchState) (priority : Int32) :
    (state.eligible priority).Perm
      (state.holders.filter fun holder => holder.priority < priority) :=
  List.mergeSort_perm _ _

/-- If the needed number is not gathered, all holders have been asked. -/
theorem gather_of_short {holders : List Holder}
    (hshort : (state.gather needed available holders).1 < needed) :
    (state.gather needed available holders).1 =
      available + (holders.map state.usableNodes).sum := by
  induction holders generalizing available with
  | nil => rfl
  | cons holder rest ih =>
    by_cases henough : needed ≤ available
    · simp only [gather, if_pos henough] at hshort
      omega
    · by_cases husable : state.usableNodes holder = 0
      · simp only [gather, if_neg henough, if_pos husable] at hshort ⊢
        rw [ih hshort, List.map_cons, List.sum_cons, husable, Nat.zero_add]
      · simp only [gather, if_neg henough, if_neg husable] at hshort ⊢
        rw [ih hshort, List.map_cons, List.sum_cons, Nat.add_assoc]

/-- Preemption is given up exactly if all eligible holders together would not
make enough room. -/
theorem victims?_eq_none_iff :
    state.victims? priority needed = none ↔
      state.freeCount + ((state.eligible priority).map state.usableNodes).sum <
        needed := by
  have hnone : state.victims? priority needed = none ↔
      (state.gather needed state.freeCount (state.eligible priority)).1 <
        needed := by
    simp [victims?]
  rw [hnone]
  constructor
  · intro hshort
    rwa [← gather_of_short hshort]
  · intro hshort
    obtain ⟨taken, hsub, heq⟩ :=
      gather_eq state needed state.freeCount (state.eligible priority)
    have hsum : (taken.map state.usableNodes).sum ≤
        ((state.eligible priority).map state.usableNodes).sum :=
      (hsub.map _).sum_le_sum fun _ _ => Nat.zero_le _
    rw [heq]
    exact Nat.lt_of_le_of_lt (Nat.add_le_add_left hsum _) hshort

end Hopeless

section Reach

variable {state next : MatchState} {preempts : Bool} {priority : Int32}

theorem mem_yielding_iff {holder : Holder} :
    holder ∈ state.yielding preempts priority ↔
      preempts ∧ holder ∈ state.holders ∧ holder.priority < priority := by
  cases preempts with
  | false => simp [yielding]
  | true => simp [yielding, (eligible_perm state priority).mem_iff]

theorem mem_reachable_iff {name : NodeName} :
    name ∈ state.reachable preempts priority ↔
      name ∈ state.freeNodes.map Node.name ∨
        ∃ holder ∈ state.yielding preempts priority,
          name ∈ state.usableNames holder := by
  rw [reachable, List.mem_append, List.mem_flatMap]

private theorem length_reachable :
    (state.reachable preempts priority).length =
      state.freeCount +
        ((state.yielding preempts priority).map state.usableNodes).sum := by
  simp [reachable, freeCount_eq_length, List.length_flatMap, length_usableNames]

private theorem nodup_reachable (hstate : state.Coherent)
    (hholders : state.SoundHolders) :
    (state.reachable preempts priority).Nodup := by
  apply nodup_free_and_usable hstate
  · cases preempts with
    | false => exact List.nodup_nil
    | true =>
      have hperm := (eligible_perm state priority).map Holder.id
      exact hperm.nodup_iff.mpr
        (hholders.distinct.sublist (List.filter_sublist.map _))
  · intro holder hholder
    exact hholders.listedOnce holder (mem_yielding_iff.mp hholder).2.1

/-- Nothing comes into reach while the nodes and the holders stay as they
are. -/
theorem reachable_idle_subset (hpool : next.pool = state.pool)
    (hholders : next.holders = state.holders) :
    next.reachable preempts priority ⊆ state.reachable preempts priority := by
  have husable : next.usableNames = state.usableNames := by
    funext holder
    simp only [usableNames, hpool]
  rw [reachable, reachable, yielding, yielding, eligible, eligible, freeNodes,
    freeNodes, husable, hpool, hholders]
  exact List.Subset.refl _

/-- A start on free nodes brings nothing into reach. -/
theorem reachable_start_subset (hstate : state.Coherent) {task : Task}
    {chosen : List NodeName} (hfree : chosen ⊆ state.freeNodes.map Node.name) :
    (state.start task chosen).reachable preempts priority ⊆
      state.reachable preempts priority := by
  have hstarted := coherent_start state task chosen hstate
  intro name hname
  by_cases hchosen : name ∈ chosen
  · exact mem_reachable_iff.mpr (Or.inl (hfree hchosen))
  · have hsame : ∀ id,
        (state.start task chosen).Occupies id name ↔
          state.Occupies id name := by
      intro id
      simp [occupies_start_iff, hchosen]
    have hready : (state.start task chosen).IsReadyName name ↔
        state.IsReadyName name := by
      rw [IsReadyName, frame_start, IsReadyName]
    rw [mem_reachable_iff, mem_freeNodes_iff_not_occupies hstarted] at hname
    rw [mem_reachable_iff, mem_freeNodes_iff_not_occupies hstate]
    simp only [mem_usableNames_iff hstarted, hsame, hready] at hname
    simp only [mem_usableNames_iff hstate]
    exact hname

/-- Neither does a preemption of holders that were within reach. -/
theorem reachable_dismissAll_subset (hstate : state.Coherent)
    {preemptor : TaskId} {victims : List Holder}
    (hvictims : victims ⊆ state.yielding preempts priority) :
    (state.dismissAll preemptor victims).reachable preempts priority ⊆
      state.reachable preempts priority := by
  intro name hname
  rcases mem_reachable_iff.mp hname with hfree | ⟨holder, hholder, husable⟩
  · rw [mem_freeNodes_dismissAll_iff hstate] at hfree
    rcases hfree with hfree | ⟨victim, hvictim, husable⟩
    · exact mem_reachable_iff.mpr (Or.inl hfree)
    · exact mem_reachable_iff.mpr (Or.inr ⟨victim, hvictims hvictim, husable⟩)
  · obtain ⟨hpreempts, hmem, hbelow⟩ := mem_yielding_iff.mp hholder
    rw [holders_dismissAll] at hmem
    have hyields : holder ∈ state.yielding preempts priority :=
      mem_yielding_iff.mpr ⟨hpreempts, List.mem_of_mem_filter hmem, hbelow⟩
    refine mem_reachable_iff.mpr (Or.inr ⟨holder, hyields, ?_⟩)
    rw [mem_usableNames_iff (coherent_dismissAll hstate victims),
      isReadyName_dismissAll, occupies_dismissAll_iff] at husable
    exact (mem_usableNames_iff hstate).mpr
      ⟨husable.1, husable.2.1.1, husable.2.2⟩

/-- The turn of a queued task brings nothing into reach of a task that is at
least as urgent. -/
theorem reachable_turn_subset {pass : MatchPass} {valid : Bool}
    {candidate : Candidate} (hstate : state.Coherent)
    (hqueued : candidate.task.isScheduled = false)
    (hbelow : candidate.prepared.effectivePriority ≤ priority)
    (hturn : Turn pass valid state candidate next) :
    next.reachable (pass.preempts valid) priority ⊆
      state.reachable (pass.preempts valid) priority := by
  cases hturn with
  | keep hscheduled =>
    rw [hqueued] at hscheduled
    cases hscheduled
  | suspend hscheduled =>
    rw [hqueued] at hscheduled
    cases hscheduled
  | reject => exact reachable_idle_subset rfl rfl
  | holdBack => exact reachable_idle_subset rfl rfl
  | start _ _ _ hfree => exact reachable_start_subset hstate hfree.subset
  | preempt _ _ hpass hvalid _ hvictims hlower _ hfree =>
    have hyield :
        ∀ victim, _ → victim ∈ state.yielding (pass.preempts valid) priority :=
      fun victim hvictim =>
        mem_yielding_iff.mpr ⟨by simp [MatchPass.preempts, hpass, hvalid],
          hvictims.subset hvictim,
          Int32.lt_of_lt_of_le (hlower victim hvictim) hbelow⟩
    exact List.Subset.trans
      (reachable_start_subset (coherent_dismissAll hstate _) hfree.subset)
      (reachable_dismissAll_subset hstate hyield)
  | wait => exact reachable_idle_subset rfl rfl

/-- Too little is within reach of a task that has to wait. -/
theorem length_reachable_lt {pass : MatchPass} {valid : Bool}
    (hshort : state.freeCount < needed)
    (hhopeless : pass = .training → valid →
      state.victims? priority needed = none) :
    (state.reachable (pass.preempts valid) priority).length < needed := by
  rw [length_reachable]
  cases hpreempts : pass.preempts valid with
  | false => simpa [yielding] using hshort
  | true =>
    simp only [MatchPass.preempts, Bool.and_eq_true,
      decide_eq_true_eq] at hpreempts
    exact victims?_eq_none_iff.mp (hhopeless hpreempts.2 hpreempts.1)

end Reach

section Rows

/-! ## Rows that a turn leaves behind -/

variable {pass : MatchPass} {valid : Bool} {state next : MatchState}
  {candidate : Candidate}
variable {row : Task}

/-- What a turn decides on its own task: it waits only if too little is within
reach, and it keeps running as a holder. -/
structure Decides (pass : MatchPass) (valid : Bool) (state next : MatchState)
    (candidate : Candidate) (row : Task) : Prop where
  request : row.request = candidate.task.request
  waiting : row.isWaiting →
    candidate.task.isScheduled = false ∧ state.isPlaceable candidate ∧
      (state.reachable (pass.preempts valid)
          candidate.prepared.effectivePriority).length <
        candidate.task.nodes.toNat
  kept : row.processResult = .keepRunning → pass = .training →
    holderOf candidate.prepared ∈ next.holders

/-- A turn that records a row and dismisses nobody has decided on that row
only. -/
theorem of_recorded {last : Task}
    (hdecisions : next.decisions = state.decisions ++ [last])
    (hholders : state.holders ⊆ next.holders)
    (hlast : last.processResult ≠ .suspend →
      Decides pass valid state next candidate last)
    (hrow : row ∈ next.decisions) (hnot : row.processResult ≠ .suspend) :
    (row ∈ state.decisions ∧
        ∀ holder ∈ state.holders, holder.id = row.id → holder ∈ next.holders) ∨
      Decides pass valid state next candidate row := by
  rw [hdecisions] at hrow
  rcases List.mem_append.mp hrow with hbefore | hrecorded
  · exact Or.inl ⟨hbefore, fun _ hholder _ => hholders hholder⟩
  · obtain rfl := List.mem_singleton.mp hrecorded
    exact Or.inr (hlast hnot)

/-- A row that is not suspended was there before, and so was its holder, or the
turn has decided on it. -/
theorem Turn.of_not_suspended (hturn : Turn pass valid state candidate next)
    (hrow : row ∈ next.decisions) (hnot : row.processResult ≠ .suspend) :
    (row ∈ state.decisions ∧
      ∀ holder ∈ state.holders, holder.id = row.id → holder ∈ next.holders) ∨
    Decides pass valid state next candidate row := by
  cases hturn with
  | keep =>
    rw [keep_eq] at hrow ⊢
    refine of_recorded rfl ?_
      (fun _ => ⟨rfl, nofun, fun _ htraining => by simp [htraining]⟩) hrow hnot
    dsimp only
    split
    · exact List.subset_append_left _ _
    · exact List.Subset.refl _
  | suspend =>
    exact of_recorded rfl (List.Subset.refl _) (fun hother => absurd rfl hother)
      hrow hnot
  | reject =>
    exact of_recorded rfl (List.Subset.refl _) (fun _ => ⟨rfl, nofun, nofun⟩)
      hrow hnot
  | holdBack =>
    exact of_recorded rfl (List.Subset.refl _) (fun _ => ⟨rfl, nofun, nofun⟩)
      hrow hnot
  | start =>
    exact of_recorded rfl (List.Subset.refl _) (fun _ => ⟨rfl, nofun, nofun⟩)
      hrow hnot
  | preempt =>
    rcases List.mem_append.mp hrow with hrow | hrow
    · obtain ⟨hbefore, hspared⟩ :=
        (mem_dismissAll_iff_of_not_suspended hnot).mp hrow
      refine Or.inl ⟨hbefore, fun holder hholder hid => ?_⟩
      show holder ∈ (state.dismissAll candidate.id _).holders
      rw [holders_dismissAll, List.mem_filter, decide_eq_true_eq, hid]
      exact ⟨hholder, hspared⟩
    · rw [List.mem_singleton.mp hrow]
      exact Or.inr ⟨rfl, nofun, nofun⟩
  | wait hqueued hplaceable hshort hhopeless =>
    exact of_recorded rfl (List.Subset.refl _)
      (fun _ =>
        ⟨rfl,
          fun _ => ⟨hqueued, hplaceable, length_reachable_lt hshort hhopeless⟩,
          nofun⟩)
      hrow hnot

end Rows

end MatchState

namespace Candidate

instance : Std.TransCmp compareQueue := by
  have hqueue : compareQueue = compareLex
      (compareLex
        (compareLex
          (fun left right => compareOn (fun candidate : Candidate =>
            candidate.prepared.effectivePriority) right left)
          (fun left right => compareOn (fun candidate : Candidate =>
            candidate.prepared.rankKey) right left))
        (compareOn fun candidate : Candidate => candidate.task.createdSeconds))
      (compareOn Candidate.id) := rfl
  rw [hqueue]
  infer_instance

/-- Nobody in the queue is more urgent than those before. -/
theorem priority_le_of_compareQueue {earlier later : Candidate}
    (hordered : (earlier.compareQueue later).isLE) :
    later.prepared.effectivePriority ≤ earlier.prepared.effectivePriority := by
  rw [← Std.isLE_compare]
  simp only [compareQueue, PreparedTask.compareRank,
    Ordering.isLE_then_iff_and] at hordered
  exact hordered.1.1.1

end Candidate

namespace Partition

variable {partition : Partition} {pass : MatchPass} {done : List Candidate}
variable {state next : MatchState} {candidate : Candidate}

/-- After a task that is to be placed come only such tasks, and none above
it. -/
def Precedes (partition : Partition) (earlier later : Candidate) : Prop :=
  earlier.task.isScheduled = false → partition.opening.isPlaceable earlier →
    later.task.isScheduled = false ∧
      later.prepared.effectivePriority ≤ earlier.prepared.effectivePriority

theorem agenda_ordered (partition : Partition) (pass : MatchPass) :
    (partition.agenda pass).Pairwise partition.Precedes := by
  have hholding : ∀ earlier ∈ partition.holding pass, ∀ later,
      partition.Precedes earlier later := by
    intro earlier hearlier later hqueued
    rw [partition.isScheduled_of_mem_holding pass hearlier] at hqueued
    cases hqueued
  have hturnedDown :
      ∀ earlier ∈ (partition.waiting pass).filter
          (fun candidate => !partition.opening.isPlaceable candidate),
        ∀ later, partition.Precedes earlier later := by
    intro earlier hearlier later _ hplaceable
    simp [hplaceable] at hearlier
  have hqueue : (partition.queue pass).Pairwise partition.Precedes := by
    refine (pairwise_mergeSort_isLE Candidate.compareQueue _).imp_of_mem ?_
    intro earlier later _ hlater hordered _ _
    exact ⟨partition.isScheduled_of_mem_waiting pass
        ((partition.mem_queue_iff pass).mp hlater).1,
      Candidate.priority_le_of_compareQueue hordered⟩
  rw [agenda, List.append_assoc, List.pairwise_append, List.pairwise_append]
  refine ⟨?_, ⟨?_, hqueue, ?_⟩, ?_⟩
  · exact List.pairwise_of_forall_mem_list fun earlier hearlier later _ =>
      hholding earlier hearlier later
  · exact List.pairwise_of_forall_mem_list fun earlier hearlier later _ =>
      hturnedDown earlier hearlier later
  · exact fun earlier hearlier later _ => hturnedDown earlier hearlier later
  · exact fun earlier hearlier later _ => hholding earlier hearlier later

/-- The first turns of a pass, in order and each that of another task. -/
theorem Sound.firstTurns (hsound : partition.Sound pass) {rest : List Candidate}
    (hagenda : partition.agenda pass = done ++ rest) :
    done ⊆ partition.decided pass ∧ (done.map Candidate.id).Nodup ∧
      done.Pairwise partition.Precedes := by
  have hfirst : done.Sublist (partition.agenda pass) :=
    hagenda ▸ List.sublist_append_left done rest
  exact ⟨fun _ hmem => (partition.agenda_perm pass).subset (hfirst.subset hmem),
    hsound.nodup_agenda.sublist (hfirst.map _),
    (partition.agenda_ordered pass).sublist hfirst⟩

/-- A holder would give back every ready node that it occupies. -/
theorem Tracks.mem_usableNames_iff (htracks : partition.Tracks done state)
    (hdone : (done.map Candidate.id).Nodup) {holder : Holder}
    (hholder : holder ∈ state.holders) {name : NodeName} :
    name ∈ state.usableNames holder ↔
      state.Occupies holder.id name ∧ state.IsReadyName name := by
  rw [MatchState.mem_usableNames_iff htracks.coherent, and_iff_right_of_imp]
  rintro ⟨hoccupies, -⟩
  rcases (htracks.occupied holder.id name).mp hoccupies with
    ⟨row, hrow, hid, -, hlisted, -⟩ | hlater
  · obtain ⟨kept, -, rfl, -, -, rfl⟩ :=
      htracks.row_of_holder hdone hholder hrow hid
    exact hlisted
  · exact absurd (htracks.id_of_holder hholder) hlater.1

/-- What is decided so far stands: too little is within reach of the tasks that
wait, and the tasks that keep running are holders. -/
structure Stands (partition : Partition) (pass : MatchPass)
    (done : List Candidate) (state : MatchState) : Prop where
  waiting : ∀ row ∈ state.decisions, row.isWaiting →
    ∃ candidate ∈ done, row.request = candidate.task.request ∧
      candidate.task.isScheduled = false ∧
      partition.opening.isPlaceable candidate ∧
      (state.reachable (pass.preempts partition.valid)
          candidate.prepared.effectivePriority).length <
        candidate.task.nodes.toNat
  kept : pass = .training → ∀ row ∈ state.decisions,
    row.processResult = .keepRunning →
    ∃ candidate ∈ done, row.request = candidate.task.request ∧
      MatchState.holderOf candidate.prepared ∈ state.holders

theorem stands_opening : partition.Stands pass [] partition.opening where
  waiting := fun _ hrow => absurd hrow List.not_mem_nil
  kept := fun _ _ hrow => absurd hrow List.not_mem_nil

/-- A turn in the order of the agenda leaves standing what is decided. -/
theorem Stands.turn (hstands : partition.Stands pass done state)
    (hturn : MatchState.Turn pass partition.valid state candidate next)
    (hstate : state.Coherent)
    (hplaceable : state.isPlaceable = partition.opening.isPlaceable)
    (hordered : ∀ earlier ∈ done, partition.Precedes earlier candidate)
    (hnext : ∀ priority,
      (next.reachable (pass.preempts partition.valid) priority).Nodup) :
    partition.Stands pass (done ++ [candidate]) next where
  waiting := by
    intro row hrow hwaiting
    have hshrinks : ∀ priority, candidate.task.isScheduled = false →
        candidate.prepared.effectivePriority ≤ priority →
        (next.reachable (pass.preempts partition.valid) priority).length ≤
          (state.reachable (pass.preempts partition.valid)
            priority).length := by
      intro priority hqueued hbelow
      have hsubset :=
        MatchState.reachable_turn_subset hstate hqueued hbelow hturn
      exact (List.subperm_of_subset (hnext priority) hsubset).length_le
    have hnot : row.processResult ≠ .suspend := by
      intro hsuspended
      simp [Task.isWaiting, hsuspended] at hwaiting
    rcases hturn.of_not_suspended hrow hnot with ⟨hbefore, -⟩ | hdecides
    · obtain ⟨earlier, hearlier, hrequest, hqueued, hplaced, hshort⟩ :=
        hstands.waiting row hbefore hwaiting
      obtain ⟨hcandidate, hbelow⟩ := hordered earlier hearlier hqueued hplaced
      exact ⟨earlier, List.mem_append_left _ hearlier, hrequest, hqueued,
        hplaced, Nat.lt_of_le_of_lt (hshrinks _ hcandidate hbelow) hshort⟩
    · obtain ⟨hqueued, hplaced, hshort⟩ := hdecides.waiting hwaiting
      exact ⟨candidate, by simp, hdecides.request, hqueued,
        hplaceable ▸ hplaced,
        Nat.lt_of_le_of_lt (hshrinks _ hqueued (Int32.le_refl _)) hshort⟩
  kept := by
    intro htraining row hrow hkept
    have hnot : row.processResult ≠ .suspend := by
      rw [hkept]
      nofun
    rcases hturn.of_not_suspended hrow hnot with ⟨hbefore, hholders⟩ | hdecides
    · obtain ⟨earlier, hearlier, hrequest, hholder⟩ :=
        hstands.kept htraining row hbefore hkept
      refine ⟨earlier, List.mem_append_left _ hearlier, hrequest,
        hholders _ hholder ?_⟩
      exact (Task.id_eq_of_request hrequest).symm
    · exact ⟨candidate, by simp, hdecides.request,
        hdecides.kept hkept htraining⟩

theorem stands_walk (hsound : partition.Sound pass)
    (hdone : done ⊆ partition.decided pass)
    (hdistinct : (done.map Candidate.id).Nodup)
    (hordered : done.Pairwise partition.Precedes) :
    partition.Stands pass done (partition.walk pass done) := by
  induction done using List.reverseRecOn with
  | nil => exact stands_opening
  | append_singleton done candidate ih =>
    have hearlier : done ⊆ partition.decided pass := fun _ hmem =>
      hdone (List.mem_append_left _ hmem)
    obtain ⟨hnext, -⟩ := tracks_walk hsound hdone hdistinct
    rw [List.map_append, List.nodup_append'] at hdistinct
    rw [List.pairwise_append] at hordered
    obtain ⟨htracks, -⟩ := tracks_walk hsound hearlier hdistinct.1
    refine (ih hearlier hdistinct.1 hordered.1).turn
      (htracks.turn_walk hsound hearlier hdistinct.1) htracks.coherent
      (partition.isPlaceable_walk pass done) ?_ ?_
    · exact fun earlier hmem =>
        hordered.2.2 earlier hmem candidate (List.mem_singleton_self _)
    · exact fun priority =>
        MatchState.nodup_reachable hnext.coherent
          (hnext.soundHolders hsound hdone)

end Partition

end ClusterTick
