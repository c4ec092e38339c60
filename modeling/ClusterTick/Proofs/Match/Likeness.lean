import ClusterTick.Proofs.Match.Ruling
import ClusterTick.Proofs.Order.Sorting

/-!
# Matches that are seen alike

Two matches are compared through a view of their rows.  They are alike if their
nodes are the same, their holders are the same in some order, and their rows are
seen alike.  Then they choose the same victims and the same nodes, so they stay
alike at the turn of a candidate that both see alike.
-/

namespace ClusterTick

/-- What is seen of decided rows.  What is seen of a row once it is preempted
follows from what was seen of it before. -/
structure RowView where
  see : Task → Option Task
  id : ∀ row seen, see row = some seen → seen.id = row.id
  preempted : ∀ preemptor row, see (MatchState.markPreempted preemptor row) =
    (see row).bind fun seen => see (MatchState.markPreempted preemptor seen)

namespace RowView

/-- The row of one task is seen, and nothing of the others. -/
def ofTask (id : TaskId) : RowView where
  see row := if row.id = id then some row else none
  id := by
    intro row seen hseen
    split at hseen
    · rw [← Option.some.inj hseen]
    · cases hseen
  preempted := by
    intro preemptor row
    have hid : (MatchState.markPreempted preemptor row).id = row.id := rfl
    by_cases hrow : row.id = id
    · simp [hid, hrow]
    · simp [hid, hrow]

/-- What a view sees of the rows of a task once some tasks are preempted. -/
def suspend (view : RowView) (preemptor victim : TaskId) (seen : Task) :
    Option Task :=
  if seen.id = victim then view.see (MatchState.markPreempted preemptor seen)
  else some seen

private theorem filterMap_markPreempted (view : RowView)
    (preemptor victim : TaskId) (rows : List Task) :
    (rows.map fun row =>
          if row.id = victim then MatchState.markPreempted preemptor row
          else row).filterMap view.see =
      (rows.filterMap view.see).filterMap (view.suspend preemptor victim) := by
  rw [List.filterMap_map, List.filterMap_filterMap]
  apply List.filterMap_congr
  intro row _
  simp only [Function.comp_apply]
  cases hsee : view.see row with
  | none =>
    split
    · rw [view.preempted, hsee]
      rfl
    · rw [hsee]
      rfl
  | some seen =>
    have hid : seen.id = row.id := view.id row seen hsee
    split
    case isTrue hvictim =>
      rw [view.preempted, hsee]
      simp [suspend, hid, hvictim]
    case isFalse hvictim =>
      rw [hsee]
      simp [suspend, hid, hvictim]

end RowView

/-- Two candidates are the same task with the same answers, but for denials that
a view does not tell apart. -/
structure Candidate.Alike (view : RowView) (left right : Candidate) : Prop where
  prepared : left.prepared = right.prepared
  running : left.verdict.running = right.verdict.running
  passes : left.admission.passes = right.admission.passes
  denied : ∀ denial other, left.admission = .denied denial →
    right.admission = .denied other →
    view.see (left.task.withDecision .notSure .cannotRun denial.message) =
      view.see (left.task.withDecision .notSure .cannotRun other.message)

theorem Candidate.Alike.refl (view : RowView) (candidate : Candidate) :
    candidate.Alike view candidate where
  prepared := rfl
  running := rfl
  passes := rfl
  denied := by
    intro denial other hdenial hother
    rw [hdenial] at hother
    rw [Check.denied.inj hother]

namespace MatchState

/-- Two matches with the same nodes and holders, and with rows that are seen
alike. -/
structure Alike (view : RowView) (left right : MatchState) : Prop where
  header : left.header = right.header
  pool : left.pool = right.pool
  holders : left.holders.Perm right.holders
  rows : (left.decisions.filterMap view.see).Perm
    (right.decisions.filterMap view.see)

variable {view : RowView} {left right next : MatchState}

theorem Alike.refl (view : RowView) (state : MatchState) :
    Alike view state state :=
  ⟨rfl, rfl, List.Perm.refl _, List.Perm.refl _⟩

theorem Alike.symm (halike : Alike view left right) : Alike view right left :=
  ⟨halike.header.symm, halike.pool.symm, halike.holders.symm, halike.rows.symm⟩

theorem Alike.trans (hfirst : Alike view left right)
    (hsecond : Alike view right next) : Alike view left next :=
  ⟨hfirst.header.trans hsecond.header, hfirst.pool.trans hsecond.pool,
    hfirst.holders.trans hsecond.holders, hfirst.rows.trans hsecond.rows⟩

/-- Matches stay alike when each gets one more row, and both rows are seen
alike. -/
theorem Alike.extend (halike : Alike view left right)
    {first second : MatchState} {row other : Task}
    (hfirst : first.decisions = left.decisions ++ [row])
    (hsecond : second.decisions = right.decisions ++ [other])
    (hsee : view.see row = view.see other)
    (hheader : first.header = second.header) (hpool : first.pool = second.pool)
    (hholders : first.holders.Perm second.holders) :
    Alike view first second where
  header := hheader
  pool := hpool
  holders := hholders
  rows := by
    rw [hfirst, hsecond, List.filterMap_append, List.filterMap_append]
    have hlast : [row].filterMap view.see = [other].filterMap view.see := by
      rw [List.filterMap_cons, List.filterMap_cons, hsee]
    rw [hlast]
    exact halike.rows.append_right _

section Victims

/-! ## The same victims -/

instance : Std.TransCmp compareVictims := by
  have hvictims : compareVictims = compareLex
      (compareLex (compareOn Holder.priority) (compareOn Holder.runningSeconds))
      (fun left right => compareOn Holder.id right left) := rfl
  rw [hvictims]
  infer_instance

theorem Alike.freeNodes_eq (halike : Alike view left right) :
    left.freeNodes = right.freeNodes := by
  rw [freeNodes, halike.pool, freeNodes]

theorem Alike.freeCount_eq (halike : Alike view left right) :
    left.freeCount = right.freeCount := by
  rw [freeCount, halike.pool, freeCount]

theorem Alike.gather_eq (halike : Alike view left right)
    (needed available : Nat) (holders : List Holder) :
    left.gather needed available holders =
      right.gather needed available holders := by
  have husable :
      ∀ holder, left.usableNodes holder = right.usableNodes holder := by
    intro holder
    rw [usableNodes, halike.pool, usableNodes]
  induction holders generalizing available with
  | nil => rfl
  | cons holder rest ih => simp only [gather, husable, ih]

/-- The order of the holders does not count. -/
theorem Alike.eligible_eq (halike : Alike view left right)
    (hholders : (right.holders.map Holder.id).Nodup) (priority : Int32) :
    left.eligible priority = right.eligible priority := by
  apply mergeSort_of_perm compareVictims (halike.holders.filter _)
  intro first hfirst second hsecond hlevel
  simp only [compareVictims, Ordering.then_eq_eq] at hlevel
  exact List.inj_on_of_nodup_map hholders (List.mem_of_mem_filter hfirst)
    (List.mem_of_mem_filter hsecond)
    (Std.LawfulEqCmp.eq_of_compare hlevel.2).symm

theorem Alike.victims?_eq (halike : Alike view left right)
    (hholders : (right.holders.map Holder.id).Nodup) (priority : Int32)
    (needed : Nat) :
    left.victims? priority needed = right.victims? priority needed := by
  rw [victims?, halike.freeCount_eq, halike.eligible_eq hholders,
    halike.gather_eq, victims?]

theorem Alike.dismiss (halike : Alike view left right) (preemptor : TaskId)
    (holder : Holder) :
    Alike view (left.dismiss preemptor holder)
      (right.dismiss preemptor holder) where
  header := halike.header
  pool := by simp only [MatchState.dismiss, release, halike.pool]
  holders := halike.holders.filter _
  rows := by
    simp only [MatchState.dismiss, view.filterMap_markPreempted]
    exact halike.rows.filterMap _

private theorem preemptOne_freed {state : MatchState}
    (hholders : (state.holders.map Holder.id).Nodup) {holder : Holder}
    (hholder : holder ∈ state.holders) (preemptor : TaskId) :
    (state.preemptOne preemptor holder.id).2 =
      state.releasable holder.id holder.nodes := by
  have hfind :
      state.holders.find? (fun other => other.id = holder.id) = some holder :=
    (find?_key_eq_some_iff hholders).mpr ⟨hholder, rfl⟩
  rw [preemptOne, hfind]

/-- Both matches suspend the same victims, and the same nodes become free. -/
theorem Alike.preempt (halike : Alike view left right) (preemptor : TaskId)
    (hholders : (left.holders.map Holder.id).Nodup)
    (hleft : (left.decisions.map Task.id).Nodup)
    (hright : (right.decisions.map Task.id).Nodup) {victims : List Holder}
    (hdistinct : (victims.map Holder.id).Nodup)
    (hmem : ∀ victim ∈ victims, victim ∈ left.holders) :
    Alike view (left.preempt preemptor (victims.map Holder.id)).1
        (right.preempt preemptor (victims.map Holder.id)).1 ∧
      (left.preempt preemptor (victims.map Holder.id)).2 =
        (right.preempt preemptor (victims.map Holder.id)).2 := by
  induction victims generalizing left right with
  | nil => exact ⟨halike, rfl⟩
  | cons victim rest ih =>
    rw [List.map_cons, List.nodup_cons] at hdistinct
    have hvictim := hmem victim List.mem_cons_self
    have hotherVictim := halike.holders.subset hvictim
    have hotherHolders : (right.holders.map Holder.id).Nodup :=
      (halike.holders.map Holder.id).nodup_iff.mp hholders
    have hstep : ∀ state : MatchState,
        state.preempt preemptor (victim.id :: rest.map Holder.id) =
          (((state.preemptOne preemptor victim.id).1.preempt preemptor
              (rest.map Holder.id)).1,
            (state.preemptOne preemptor victim.id).2 ++
              ((state.preemptOne preemptor victim.id).1.preempt preemptor
                (rest.map Holder.id)).2) :=
      fun _ => rfl
    have hfreed : left.releasable victim.id victim.nodes =
        right.releasable victim.id victim.nodes := by
      rw [releasable, halike.pool, releasable]
    obtain ⟨hlater, hlaterFreed⟩ :=
      ih (halike.dismiss preemptor victim)
        (nodup_holders_dismiss hholders victim) (by rwa [ids_dismiss])
        (by rwa [ids_dismiss]) hdistinct.2 (by
          intro later hother
          refine List.mem_filter.mpr
            ⟨hmem later (List.mem_cons_of_mem _ hother), ?_⟩
          have hne : later.id ≠ victim.id := fun hid =>
            hdistinct.1 (hid ▸ List.mem_map_of_mem hother)
          simpa using hne)
    rw [List.map_cons, hstep, hstep, preemptOne_eq hholders hleft hvictim,
      preemptOne_eq hotherHolders hright hotherVictim,
      preemptOne_freed hholders hvictim,
      preemptOne_freed hotherHolders hotherVictim, hfreed, hlaterFreed]
    exact ⟨hlater, rfl⟩

end Victims

section Turns

/-! ## The same turns -/

variable {pass : MatchPass} {valid : Bool} {candidate other : Candidate}

theorem Alike.settle (halike : Alike view left right)
    (hcandidate : candidate.Alike view other) :
    Alike view (left.settle pass candidate) (right.settle pass other) := by
  have htask : candidate.task = other.task :=
    congrArg PreparedTask.task hcandidate.prepared
  rw [MatchState.settle, MatchState.settle, ← hcandidate.running,
    ← hcandidate.prepared, ← htask]
  split
  · rw [keep_eq, keep_eq]
    refine halike.extend rfl rfl rfl halike.header halike.pool ?_
    dsimp only
    split
    · exact halike.holders.append_right _
    · exact halike.holders
  · rw [suspend_eq, suspend_eq]
    refine halike.extend rfl rfl rfl halike.header ?_ halike.holders
    simp only [release, halike.pool]

theorem Alike.isInfeasible_eq (halike : Alike view left right) (task : Task) :
    left.isInfeasible task = right.isInfeasible task := by
  have hactive : left.active = right.active := congrArg Prod.snd halike.header
  rw [isInfeasible, hactive, isInfeasible]

theorem Alike.screen (halike : Alike view left right)
    (hcandidate : candidate.Alike view other) :
    Alike view (left.screen candidate) (right.screen other) := by
  have htask : candidate.task = other.task :=
    congrArg PreparedTask.task hcandidate.prepared
  have hgroup : left.group = right.group := congrArg Prod.fst halike.header
  have hactive : left.active = right.active := congrArg Prod.snd halike.header
  have hpasses := hcandidate.passes
  rw [MatchState.screen, MatchState.screen, ← htask, ← halike.isInfeasible_eq]
  split
  · rw [rejectInfeasible_eq, rejectInfeasible_eq]
    refine halike.extend rfl rfl ?_ halike.header halike.pool halike.holders
    rw [hgroup, hactive]
  · cases hadmission : candidate.admission with
    | approved =>
      cases hother : other.admission with
      | approved => exact halike
      | denied denial => simp [hadmission, hother, Check.passes] at hpasses
    | denied denial =>
      cases hother : other.admission with
      | approved => simp [hadmission, hother, Check.passes] at hpasses
      | denied reason =>
        exact halike.extend rfl rfl
          (hcandidate.denied denial reason hadmission hother) halike.header
          halike.pool halike.holders

theorem Alike.start (halike : Alike view left right) (task : Task)
    (chosen : List NodeName) :
    Alike view (left.start task chosen) (right.start task chosen) := by
  have hgroup : left.group = right.group := congrArg Prod.fst halike.header
  rw [start_eq, start_eq]
  refine halike.extend rfl rfl ?_ halike.header ?_ halike.holders
  · rw [hgroup]
  · simp only [halike.pool]

theorem Alike.wait (halike : Alike view left right) (task : Task) :
    Alike view (left.wait task) (right.wait task) := by
  have hgroup : left.group = right.group := congrArg Prod.fst halike.header
  rw [wait_eq, wait_eq]
  refine halike.extend rfl rfl ?_ halike.header halike.pool halike.holders
  rw [hgroup, halike.freeCount_eq]

theorem Alike.placeTraining (halike : Alike view left right)
    (hprepared : candidate.prepared = other.prepared)
    (hholders : (left.holders.map Holder.id).Nodup)
    (hleft : (left.decisions.map Task.id).Nodup)
    (hright : (right.decisions.map Task.id).Nodup) :
    Alike view (left.placeTraining valid candidate)
      (right.placeTraining valid other) := by
  have htask : candidate.task = other.task :=
    congrArg PreparedTask.task hprepared
  have hid : candidate.id = other.id := congrArg PreparedTask.id hprepared
  have hotherHolders : (right.holders.map Holder.id).Nodup :=
    (halike.holders.map Holder.id).nodup_iff.mp hholders
  simp only [MatchState.placeTraining, ← htask, ← hid, ← hprepared,
    ← halike.freeNodes_eq, ← halike.victims?_eq hotherHolders]
  split
  · exact halike.start _ _
  · split
    · exact halike.wait _
    case h_2 victims hvictims =>
      have hchosen : left.victims? candidate.prepared.effectivePriority
          candidate.task.nodes.toNat = some victims := by
        cases valid with
        | true => exact hvictims
        | false => cases hvictims
      obtain ⟨taken, rfl, hsub, -⟩ := victims?_eq_some hchosen
      have hdistinct := nodup_ids_of_subperm hholders hsub
      obtain ⟨hlater, hfreed⟩ :=
        halike.preempt candidate.id hholders hleft hright
          hdistinct fun _ hvictim => hsub.subset hvictim
      rw [hfreed, hlater.freeNodes_eq]
      split
      · exact hlater.start _ _
      · exact hlater.wait _

theorem Alike.placeValidation (halike : Alike view left right)
    (hprepared : candidate.prepared = other.prepared) :
    Alike view (left.placeValidation candidate)
      (right.placeValidation other) := by
  have htask : candidate.task = other.task :=
    congrArg PreparedTask.task hprepared
  rw [MatchState.placeValidation, MatchState.placeValidation, ← htask,
    ← halike.freeNodes_eq]
  split
  · exact halike.start _ _
  · exact halike.wait _

/-- Matches stay alike at the turn of a candidate that both see alike. -/
theorem Alike.attend (halike : Alike view left right)
    (hcandidate : candidate.Alike view other)
    (hholders : (left.holders.map Holder.id).Nodup)
    (hleft : (left.decisions.map Task.id).Nodup)
    (hright : (right.decisions.map Task.id).Nodup) :
    Alike view (left.attend pass valid candidate)
      (right.attend pass valid other) := by
  have htask : candidate.task = other.task :=
    congrArg PreparedTask.task hcandidate.prepared
  have hplaceable : left.isPlaceable candidate = right.isPlaceable other := by
    rw [isPlaceable, isPlaceable, ← htask, halike.isInfeasible_eq,
      hcandidate.passes]
  rw [MatchState.attend, MatchState.attend, ← htask, ← hplaceable]
  split
  · exact halike.settle hcandidate
  · split
    · cases pass with
      | training =>
        exact halike.placeTraining hcandidate.prepared hholders hleft hright
      | validation => exact halike.placeValidation hcandidate.prepared
    · exact halike.screen hcandidate

end Turns

end MatchState

namespace Partition

variable {view : RowView} {left right : Partition} {pass : MatchPass}
  {candidate : Candidate}

theorem opening_eq_of_nodes (hgroup : left.group = right.group)
    (hnodes : left.nodes = right.nodes) : left.opening = right.opening := by
  rw [opening, hgroup, hnodes, opening]

theorem eq_of_id (hsound : left.Sound pass) {other : Candidate}
    (hcandidate : candidate ∈ left.decided pass)
    (hother : other ∈ left.decided pass) (hid : other.id = candidate.id) :
    other = candidate :=
  List.inj_on_of_nodup_map hsound.ids hother hcandidate hid

theorem mem_decided_of_mem_waiting
    (hcandidate : candidate ∈ left.waiting pass) :
    candidate ∈ left.decided pass :=
  List.mem_of_mem_filter hcandidate

/-- The order of the queue tells tasks apart. -/
theorem eq_of_compareQueue (hsound : left.Sound pass) {first second : Candidate}
    (hfirst : first ∈ left.decided pass) (hsecond : second ∈ left.decided pass)
    (hlevel : first.compareQueue second = .eq) : first = second := by
  simp only [Candidate.compareQueue, Ordering.then_eq_eq] at hlevel
  exact eq_of_id hsound hsecond hfirst (Std.LawfulEqCmp.eq_of_compare hlevel.2)

/-- Alike matches stay alike over candidates that are seen alike. -/
theorem alike_walk (hleft : left.Sound pass) (hright : right.Sound pass)
    (hvalid : left.valid = right.valid)
    {done behind rest others : List Candidate}
    (hrest : List.Forall₂ (Candidate.Alike view) rest others)
    (halike : MatchState.Alike view (left.walk pass done)
      (right.walk pass behind))
    (hleftDecided : done ++ rest ⊆ left.decided pass)
    (hrightDecided : behind ++ others ⊆ right.decided pass)
    (hleftIds : ((done ++ rest).map Candidate.id).Nodup)
    (hrightIds : ((behind ++ others).map Candidate.id).Nodup) :
    MatchState.Alike view (left.walk pass (done ++ rest))
      (right.walk pass (behind ++ others)) := by
  induction hrest generalizing done behind with
  | nil => simpa using halike
  | @cons candidate other rest others hcandidate _ ih =>
    rw [List.append_cons] at hleftDecided hrightDecided hleftIds hrightIds ⊢
    rw [List.append_cons behind other others]
    apply ih _ hleftDecided hrightDecided hleftIds hrightIds
    have hdone : (done.map Candidate.id).Nodup := by
      rw [List.append_assoc] at hleftIds
      exact hleftIds.sublist ((List.sublist_append_left _ _).map _)
    have hbehind : (behind.map Candidate.id).Nodup := by
      rw [List.append_assoc] at hrightIds
      exact hrightIds.sublist ((List.sublist_append_left _ _).map _)
    obtain ⟨hleftTracks, -⟩ := tracks_walk hleft (fun _ hmem => hleftDecided
      (List.mem_append_left _ (List.mem_append_left _ hmem))) hdone
    obtain ⟨hrightTracks, -⟩ := tracks_walk hright (fun _ hmem => hrightDecided
      (List.mem_append_left _ (List.mem_append_left _ hmem))) hbehind
    rw [walk_append_singleton, walk_append_singleton, hvalid]
    exact halike.attend hcandidate hleftTracks.holders
      (hleftTracks.nodup_rows hdone) (hrightTracks.nodup_rows hbehind)

end Partition

end ClusterTick
