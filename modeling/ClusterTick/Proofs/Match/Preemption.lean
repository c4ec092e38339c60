import ClusterTick.Match.Preemption
import ClusterTick.Proofs.Match.State
import Mathlib.Algebra.GroupWithZero.Nat
import Mathlib.Data.List.Perm.Subperm

/-!
# What a preemption frees

The victims are chosen by counting: how many nodes each would free, and how many
are free already.  The count is exact as long as no holder lists a node of the
pool twice, so the victims make room, and one that is left in after the pruning
is needed: without its nodes the free ones are too few.
-/

namespace ClusterTick.MatchState

/-- What a preempted task is told. -/
def preemptedMessage (preemptor : TaskId) : String :=
  "preempted by task " ++ preemptor.text

theorem markPreempted_withDecision (preemptor : TaskId) (task : Task)
    (decision : Decision) (admission : Admission) (message : String) :
    markPreempted preemptor (task.withDecision decision admission message) =
      task.withDecision .suspend .cannotRun (preemptedMessage preemptor) :=
  rfl

/-- A ready node of the pool. -/
def IsReadyName (state : MatchState) (name : NodeName) : Prop :=
  ∃ node ∈ state.frame, node.name = name ∧ node.isReady

/-- The names that a holder would give back to the free nodes. -/
def usableNames (state : MatchState) (holder : Holder) : List NodeName :=
  holder.nodes.filter fun name =>
    state.pool.any fun place =>
      place.node.name = name ∧ place.node.working = some holder.id ∧
        place.node.isReady

/-- The holders are distinct tasks, and list no node of the pool twice. -/
structure SoundHolders (state : MatchState) : Prop where
  distinct : (state.holders.map Holder.id).Nodup
  listedOnce :
    ∀ holder ∈ state.holders, ∀ name ∈ state.names, holder.nodes.count name ≤ 1

/-- Some of the holders are distinct tasks if all of them are. -/
theorem nodup_ids_of_subperm {holders victims : List Holder}
    (hholders : (holders.map Holder.id).Nodup)
    (hvictims : victims.Subperm holders) : (victims.map Holder.id).Nodup := by
  obtain ⟨same, hsame, hsublist⟩ := hvictims
  exact (hsame.map Holder.id).nodup_iff.mp (hholders.sublist (hsublist.map _))

section Counting

variable {state : MatchState}

theorem isReadyName_iff {name : NodeName} :
    state.IsReadyName name ↔
      ∃ place ∈ state.pool, place.node.name = name ∧ place.node.isReady := by
  simp [IsReadyName, frame, Node.vacated, Node.isReady]

/-- Which nodes are free follows from their rows and their occupants. -/
theorem mem_freeNodes_iff_not_occupies (hstate : state.Coherent)
    {name : NodeName} :
    name ∈ state.freeNodes.map Node.name ↔
      state.IsReadyName name ∧ ∀ id, ¬ state.Occupies id name := by
  rw [mem_freeNodes_iff hstate, isReadyName_iff]
  constructor
  · rintro ⟨place, hplace, rfl, hworking, hready⟩
    refine ⟨⟨place, hplace, rfl, hready⟩, ?_⟩
    rintro id ⟨other, hother, hname, hoccupied⟩
    rw [hstate.place_unique hother hplace hname, hworking] at hoccupied
    cases hoccupied
  · rintro ⟨⟨place, hplace, rfl, hready⟩, hnobody⟩
    refine ⟨place, hplace, rfl, ?_, hready⟩
    cases hworking : place.node.working with
    | none => rfl
    | some id => exact absurd ⟨place, hplace, rfl, hworking⟩ (hnobody id)

theorem mem_usableNames_iff (hstate : state.Coherent) {holder : Holder}
    {name : NodeName} :
    name ∈ state.usableNames holder ↔
      name ∈ holder.nodes ∧ state.Occupies holder.id name ∧
        state.IsReadyName name := by
  rw [usableNames, List.mem_filter, isReadyName_iff]
  simp only [List.any_eq_true, decide_eq_true_eq]
  refine and_congr_right fun _ => ?_
  constructor
  · rintro ⟨place, hplace, hname, hworking, hready⟩
    exact ⟨⟨place, hplace, hname, hworking⟩, place, hplace, hname, hready⟩
  · rintro ⟨⟨place, hplace, hname, hworking⟩, other, hother, hotherName, hready⟩
    have hsame :=
      hstate.place_unique hother hplace (hotherName.trans hname.symm)
    exact ⟨place, hplace, hname, hworking, hsame ▸ hready⟩

theorem nodup_usableNames (hstate : state.Coherent) {holder : Holder}
    (honce : ∀ name ∈ state.names, holder.nodes.count name ≤ 1) :
    (state.usableNames holder).Nodup := by
  rw [List.nodup_iff_count_le_one]
  intro name
  by_cases hmem : name ∈ state.usableNames holder
  · have hnames := ((mem_usableNames_iff hstate).mp hmem).2.1.mem_names
    exact Nat.le_trans (List.filter_sublist.count_le name) (honce name hnames)
  · rw [List.count_eq_zero.mpr hmem]
    exact Nat.zero_le 1

end Counting

section Choice

/-! ## The choice of victims -/

variable {state : MatchState} {priority : Int32} {needed available : Nat}

/-- The holders taken are some of those considered, and what is available grows
by what they would free. -/
theorem gather_eq (state : MatchState) (needed available : Nat)
    (holders : List Holder) :
    ∃ taken : List Holder, taken.Sublist holders ∧
      state.gather needed available holders =
        (available + (taken.map state.usableNodes).sum,
          taken.map fun holder => (holder.id, state.usableNodes holder)) := by
  induction holders generalizing available with
  | nil => exact ⟨[], List.Sublist.refl _, rfl⟩
  | cons holder rest ih =>
    by_cases henough : needed ≤ available
    · exact ⟨[], List.nil_sublist _, by simp [gather, henough]⟩
    by_cases husable : state.usableNodes holder = 0
    · obtain ⟨taken, hsub, heq⟩ := ih available
      exact ⟨taken, hsub.cons holder, by simp [gather, henough, husable, heq]⟩
    · obtain ⟨taken, hsub, heq⟩ := ih (available + state.usableNodes holder)
      refine ⟨holder :: taken, hsub.cons_cons holder, ?_⟩
      simp [gather, henough, husable, heq, Nat.add_assoc]

/-- The last victims are examined first. -/
theorem spare_cons (needed available : Nat) (victim : TaskId × Nat)
    (rest : List (TaskId × Nat)) : spare needed available (victim :: rest) =
      if needed ≤ (spare needed available rest).1 - victim.2 then
        ((spare needed available rest).1 - victim.2,
          (spare needed available rest).2)
      else
        ((spare needed available rest).1,
            victim.1 :: (spare needed available rest).2) :=
          rfl

/-- The pruning keeps enough, and each victim that it keeps is needed. -/
theorem spare_eq (free : Nat) (taken : List (TaskId × Nat))
    (havailable : available = free + (taken.map (·.2)).sum)
    (henough : needed ≤ available) :
    ∃ kept : List (TaskId × Nat), kept.Sublist taken ∧
      spare needed available taken =
        (free + (kept.map (·.2)).sum, kept.map (·.1)) ∧
      needed ≤ free + (kept.map (·.2)).sum ∧
      ∀ victim ∈ kept, free + (kept.map (·.2)).sum < needed + victim.2 := by
  induction taken generalizing free with
  | nil =>
    rw [List.map_nil, List.sum_nil] at havailable
    subst havailable
    exact ⟨[], List.Sublist.refl _, rfl, henough, by simp⟩
  | cons head rest ih =>
    -- The head sees what the rest has left.
    obtain ⟨kept, hsub, heq, hleft, hneeded⟩ := ih (free + head.2) (by
      rw [havailable, List.map_cons, List.sum_cons, Nat.add_assoc])
    have hstep := spare_cons needed available head rest
    rw [heq] at hstep
    by_cases hspared : needed ≤ free + head.2 + (kept.map (·.2)).sum - head.2
    · refine ⟨kept, hsub.cons head, ?_, by omega, ?_⟩
      · rw [hstep, if_pos hspared, Prod.mk.injEq]
        exact ⟨by omega, rfl⟩
      · intro victim hvictim
        have := hneeded victim hvictim
        omega
    · refine ⟨head :: kept, hsub.cons_cons head, ?_, ?_, ?_⟩
      · rw [hstep, if_neg hspared, List.map_cons, List.map_cons, List.sum_cons,
          Nat.add_assoc]
      · rw [List.map_cons, List.sum_cons]
        omega
      · intro victim hvictim
        rw [List.map_cons, List.sum_cons]
        rcases List.mem_cons.mp hvictim with rfl | hvictim
        · omega
        · have := hneeded victim hvictim
          omega

/-- The victims are distinct holders of a lower priority.  Together with the
free nodes theirs are enough, and without those of any one of them they are
not. -/
theorem victims?_eq_some {victims : List TaskId}
    (hvictims : state.victims? priority needed = some victims) :
    ∃ taken : List Holder, victims = taken.map Holder.id ∧
      taken.Subperm state.holders ∧
      (∀ holder ∈ taken, holder.priority < priority) ∧
      needed ≤ state.freeCount + (taken.map state.usableNodes).sum ∧
      ∀ holder ∈ taken,
        state.freeCount + (taken.map state.usableNodes).sum <
          needed + state.usableNodes holder := by
  obtain ⟨gathered, hgathered, heq⟩ := gather_eq state needed state.freeCount
    (state.eligible priority)
  simp only [victims?, heq] at hvictims
  split at hvictims
  · cases hvictims
  case isFalse henough =>
    obtain rfl := Option.some.inj hvictims
    obtain ⟨kept, hkept, hspare, hleft, hneeded⟩ := spare_eq state.freeCount
      (gathered.map fun holder => (holder.id, state.usableNodes holder))
      (by simp [Function.comp_def]) (Nat.le_of_not_lt henough)
    obtain ⟨taken, htaken, rfl⟩ := List.sublist_map_iff.mp hkept
    simp only [List.map_map, Function.comp_def] at hspare hleft hneeded
    have heligible : taken.Sublist (state.eligible priority) :=
      htaken.trans hgathered
    refine ⟨taken, by rw [hspare], ?_, ?_, hleft, ?_⟩
    · exact heligible.subperm.trans ((List.mergeSort_perm _ _).subperm.trans
        List.filter_sublist.subperm)
    · intro holder hholder
      have hmem := heligible.subset hholder
      rw [eligible, List.mem_mergeSort, List.mem_filter] at hmem
      simpa using hmem.2
    · intro holder hholder
      exact hneeded _ (List.mem_map_of_mem hholder)

end Choice

section Dismissal

/-! ## The suspension of victims -/

variable {state : MatchState} {preemptor : TaskId}

/-- The state after one holder has been suspended for a waiting task. -/
def dismiss (preemptor : TaskId) (state : MatchState) (holder : Holder) :
    MatchState :=
  { state.release holder.id holder.nodes with
    holders := state.holders.filter fun other => other.id ≠ holder.id
    decisions := state.decisions.map fun row =>
      if row.id = holder.id then markPreempted preemptor row else row }

private theorem changeLast_of_nodup {id : TaskId} {change : Task → Task}
    {rows : List Task} (hdistinct : (rows.map Task.id).Nodup) :
    changeLast id change rows =
      rows.map fun row => if row.id = id then change row else row := by
  induction rows with
  | nil => rfl
  | cons row rest ih =>
    rw [List.map_cons, List.nodup_cons] at hdistinct
    rw [List.map_cons, changeLast, ih hdistinct.2]
    by_cases hrow : row.id = id
    · have hlast : ∀ later ∈ rest, later.id ≠ id := fun later hlater hid =>
        hdistinct.1 (hrow ▸ hid ▸ List.mem_map_of_mem hlater)
      have hnone : rest.any (fun later => later.id = id) = false := by
        simpa using hlast
      have hrest :
          rest.map (fun row => if row.id = id then change row else row) =
            rest := by
        conv_rhs => rw [← List.map_id rest]
        exact List.map_congr_left fun later hlater =>
          if_neg (hlast later hlater)
      simp [hrow, hnone, hrest]
    · simp [hrow]

private theorem eraseP_holder_of_nodup {id : TaskId} {holders : List Holder}
    (hdistinct : (holders.map Holder.id).Nodup) :
    holders.eraseP (fun other => other.id = id) =
      holders.filter fun other => other.id ≠ id := by
  induction holders with
  | nil => rfl
  | cons holder rest ih =>
    rw [List.map_cons, List.nodup_cons] at hdistinct
    by_cases hholder : holder.id = id
    · have hrest : ∀ other ∈ rest, other.id ≠ id := fun other hother hid =>
        hdistinct.1 (hholder ▸ hid ▸ List.mem_map_of_mem hother)
      rw [List.eraseP_cons_of_pos (by simpa using hholder),
        List.filter_cons_of_neg (by simpa using hholder),
        List.filter_eq_self.mpr]
      simpa using hrest
    · rw [List.eraseP_cons_of_neg (by simpa using hholder),
        List.filter_cons_of_pos (by simpa using hholder), ih hdistinct.2]

/-- The state after all victims have been suspended. -/
def dismissAll (preemptor : TaskId) (state : MatchState)
    (victims : List Holder) : MatchState :=
  victims.foldl (dismiss preemptor) state

theorem preemptOne_eq (hholders : (state.holders.map Holder.id).Nodup)
    (hrows : (state.decisions.map Task.id).Nodup) {holder : Holder}
    (hholder : holder ∈ state.holders) :
    (state.preemptOne preemptor holder.id).1 =
      state.dismiss preemptor holder := by
  have hfind : state.holders.find? (fun other => other.id = holder.id) =
      some holder := by
    cases hfound : state.holders.find? (fun other => other.id = holder.id) with
    | none => simpa using List.find?_eq_none.mp hfound holder hholder
    | some other =>
      have hid : other.id = holder.id := by simpa using List.find?_some hfound
      rw [List.inj_on_of_nodup_map hholders (List.mem_of_find?_eq_some hfound)
        hholder hid]
  rw [preemptOne, hfind]
  simp only [dismiss, changeLast_of_nodup hrows,
    eraseP_holder_of_nodup hholders]

@[simp]
theorem ids_dismiss (holder : Holder) :
    (state.dismiss preemptor holder).decisions.map Task.id =
      state.decisions.map Task.id := by
  simp only [dismiss, List.map_map]
  refine List.map_congr_left fun row _ => ?_
  simp only [Function.comp_apply]
  split <;> rfl

theorem nodup_holders_dismiss (hholders : (state.holders.map Holder.id).Nodup)
    (holder : Holder) :
    ((state.dismiss preemptor holder).holders.map Holder.id).Nodup :=
  hholders.sublist (List.filter_sublist.map _)

/-- Preempting distinct holders suspends them one after the other. -/
theorem preempt_eq (hholders : (state.holders.map Holder.id).Nodup)
    (hrows : (state.decisions.map Task.id).Nodup) {victims : List Holder}
    (hdistinct : (victims.map Holder.id).Nodup)
    (hmem : ∀ victim ∈ victims, victim ∈ state.holders) :
    (state.preempt preemptor (victims.map Holder.id)).1 =
      state.dismissAll preemptor victims := by
  induction victims generalizing state with
  | nil => rfl
  | cons victim rest ih =>
    rw [List.map_cons, List.nodup_cons] at hdistinct
    have hfirst : (state.preemptOne preemptor victim.id).1 =
        state.dismiss preemptor victim :=
      preemptOne_eq hholders hrows (hmem victim List.mem_cons_self)
    have hstep : (state.preempt preemptor (victim.id :: rest.map Holder.id)).1 =
        ((state.preemptOne preemptor victim.id).1.preempt preemptor
          (rest.map Holder.id)).1 :=
      rfl
    rw [List.map_cons, hstep, hfirst, dismissAll, List.foldl_cons]
    refine ih (nodup_holders_dismiss hholders victim) (by rwa [ids_dismiss])
      hdistinct.2 ?_
    intro later hlater
    refine List.mem_filter.mpr ⟨hmem later (List.mem_cons_of_mem _ hlater), ?_⟩
    have hne : later.id ≠ victim.id := fun hid =>
      hdistinct.1 (hid ▸ List.mem_map_of_mem hlater)
    simpa using hne

theorem occupies_dismiss_iff {holder : Holder} {id : TaskId} {name : NodeName} :
    (state.dismiss preemptor holder).Occupies id name ↔
      state.Occupies id name ∧ ¬ (id = holder.id ∧ name ∈ holder.nodes) :=
  occupies_release_iff state holder.id holder.nodes

theorem coherent_dismiss (hstate : state.Coherent) (holder : Holder) :
    (state.dismiss preemptor holder).Coherent :=
  (coherent_release state holder.id holder.nodes hstate).of_pool rfl

theorem frame_dismissAll (victims : List Holder) :
    (state.dismissAll preemptor victims).frame = state.frame := by
  induction victims generalizing state with
  | nil => rfl
  | cons victim rest ih =>
    rw [dismissAll, List.foldl_cons]
    exact ih.trans (frame_release state victim.id victim.nodes)

theorem ids_dismissAll (victims : List Holder) :
    (state.dismissAll preemptor victims).decisions.map Task.id =
      state.decisions.map Task.id := by
  induction victims generalizing state with
  | nil => rfl
  | cons victim rest ih =>
    rw [dismissAll, List.foldl_cons]
    exact ih.trans (ids_dismiss victim)

theorem coherent_dismissAll (hstate : state.Coherent) (victims : List Holder) :
    (state.dismissAll preemptor victims).Coherent := by
  induction victims generalizing state with
  | nil => exact hstate
  | cons victim rest ih => exact ih (coherent_dismiss hstate victim)

/-- The victims lose the nodes that they list, and nobody else loses any. -/
theorem occupies_dismissAll_iff {victims : List Holder} {id : TaskId}
    {name : NodeName} :
    (state.dismissAll preemptor victims).Occupies id name ↔
      state.Occupies id name ∧
        ∀ victim ∈ victims, ¬ (id = victim.id ∧ name ∈ victim.nodes) := by
  induction victims generalizing state with
  | nil => simp [dismissAll]
  | cons victim rest ih =>
    rw [dismissAll, List.foldl_cons]
    rw [← dismissAll, ih, occupies_dismiss_iff, List.forall_mem_cons, and_assoc]

theorem decisions_dismissAll (victims : List Holder) :
    (state.dismissAll preemptor victims).decisions =
      state.decisions.map fun row =>
        if row.id ∈ victims.map Holder.id then markPreempted preemptor row
        else row := by
  induction victims generalizing state with
  | nil => simp [dismissAll]
  | cons victim rest ih =>
    rw [dismissAll, List.foldl_cons, ← dismissAll, ih]
    simp only [dismiss, List.map_map, List.map_cons, List.mem_cons]
    refine List.map_congr_left fun row _ => ?_
    simp only [Function.comp_apply]
    by_cases hvictim : row.id = victim.id
    · simp [hvictim, markPreempted]
    · simp [hvictim]

/-- The rows that are not suspended after a dismissal are those from before but
for the victims'. -/
theorem mem_dismissAll_iff_of_not_suspended {victims : List Holder} {row : Task}
    (hnot : row.processResult ≠ .suspend) :
    row ∈ (state.dismissAll preemptor victims).decisions ↔
      row ∈ state.decisions ∧ row.id ∉ victims.map Holder.id := by
  rw [decisions_dismissAll, List.mem_map]
  constructor
  · rintro ⟨before, hbefore, rfl⟩
    split at hnot
    · exact absurd rfl hnot
    case isFalse hspared =>
      rw [if_neg hspared]
      exact ⟨hbefore, hspared⟩
  · rintro ⟨hbefore, hspared⟩
    exact ⟨row, hbefore, if_neg hspared⟩

theorem mem_dismissAll_iff_of_holding {victims : List Holder} {row : Task}
    (hholding : row.isHolding) :
    row ∈ (state.dismissAll preemptor victims).decisions ↔
      row ∈ state.decisions ∧ row.id ∉ victims.map Holder.id := by
  apply mem_dismissAll_iff_of_not_suspended
  intro hsuspended
  rw [Task.isHolding, hsuspended] at hholding
  cases hholding

theorem holders_dismissAll (victims : List Holder) :
    (state.dismissAll preemptor victims).holders =
      state.holders.filter fun holder => holder.id ∉ victims.map Holder.id := by
  induction victims generalizing state with
  | nil => simp [dismissAll]
  | cons victim rest ih =>
    rw [dismissAll, List.foldl_cons, ← dismissAll, ih]
    simp only [dismiss, List.filter_filter, List.map_cons, List.mem_cons,
      not_or]
    refine List.filter_congr fun holder _ => ?_
    by_cases hvictim : holder.id = victim.id <;> simp [hvictim]

end Dismissal

section Room

/-! ## The room that the victims make -/

variable {state : MatchState} {preemptor : TaskId} {victims : List Holder}

theorem isReadyName_dismissAll {name : NodeName} :
    (state.dismissAll preemptor victims).IsReadyName name ↔
      state.IsReadyName name := by
  rw [IsReadyName, frame_dismissAll, IsReadyName]

/-- A node is free after the preemption if it was free before, or if a victim
gives it back. -/
theorem mem_freeNodes_dismissAll_iff (hstate : state.Coherent)
    {name : NodeName} :
    name ∈ (state.dismissAll preemptor victims).freeNodes.map Node.name ↔
      name ∈ state.freeNodes.map Node.name ∨
        ∃ victim ∈ victims, name ∈ state.usableNames victim := by
  rw [mem_freeNodes_iff_not_occupies (coherent_dismissAll hstate victims),
    isReadyName_dismissAll, mem_freeNodes_iff_not_occupies hstate]
  simp only [occupies_dismissAll_iff, mem_usableNames_iff hstate]
  constructor
  · rintro ⟨hready, hfreed⟩
    by_cases hoccupied : ∃ id, state.Occupies id name
    · obtain ⟨id, hid⟩ := hoccupied
      obtain ⟨victim, hvictim, hlost⟩ :
          ∃ victim ∈ victims, id = victim.id ∧ name ∈ victim.nodes := by
        have hlost := hfreed id
        simp only [hid, true_and] at hlost
        push Not at hlost
        exact hlost
      exact Or.inr ⟨victim, hvictim, hlost.2, hlost.1 ▸ hid, hready⟩
    · exact Or.inl ⟨hready, not_exists.mp hoccupied⟩
  · rintro (⟨hready, hnobody⟩ | ⟨victim, hvictim, hlisted, hheld, hready⟩)
    · exact ⟨hready, fun id h => hnobody id h.1⟩
    · refine ⟨hready, fun id h => ?_⟩
      exact h.2 victim hvictim ⟨hstate.occupant_unique h.1 hheld, hlisted⟩

theorem nodup_free_and_usable (hstate : state.Coherent)
    (hdistinct : (victims.map Holder.id).Nodup)
    (honce : ∀ victim ∈ victims, ∀ name ∈ state.names,
      victim.nodes.count name ≤ 1) :
    (state.freeNodes.map Node.name ++
      victims.flatMap state.usableNames).Nodup := by
  rw [List.nodup_append']
  refine ⟨nodup_freeNodes hstate, ?_, ?_⟩
  · rw [List.nodup_flatMap]
    refine ⟨fun victim hvictim =>
        nodup_usableNames hstate (honce victim hvictim), ?_⟩
    rw [List.Nodup, List.pairwise_map] at hdistinct
    refine hdistinct.imp ?_
    intro left right hne name hleft hright
    exact hne (hstate.occupant_unique
      ((mem_usableNames_iff hstate).mp hleft).2.1
      ((mem_usableNames_iff hstate).mp hright).2.1)
  · intro name hfree husable
    obtain ⟨victim, -, hname⟩ := List.mem_flatMap.mp husable
    exact not_occupies_of_free hstate hfree victim.id
      ((mem_usableNames_iff hstate).mp hname).2.1

/-- The count of the free nodes after a preemption is exact. -/
theorem freeNodes_dismissAll_perm (hstate : state.Coherent)
    (hdistinct : (victims.map Holder.id).Nodup)
    (honce : ∀ victim ∈ victims, ∀ name ∈ state.names,
      victim.nodes.count name ≤ 1) :
    ((state.dismissAll preemptor victims).freeNodes.map Node.name).Perm
      (state.freeNodes.map Node.name ++ victims.flatMap state.usableNames) := by
  rw [List.perm_ext_iff_of_nodup
    (nodup_freeNodes (coherent_dismissAll hstate victims))
    (nodup_free_and_usable hstate hdistinct honce)]
  intro name
  rw [mem_freeNodes_dismissAll_iff hstate, List.mem_append, List.mem_flatMap]

theorem length_usableNames (state : MatchState) (holder : Holder) :
    (state.usableNames holder).length = state.usableNodes holder := rfl

theorem freeCount_dismissAll (hstate : state.Coherent)
    (hdistinct : (victims.map Holder.id).Nodup)
    (honce : ∀ victim ∈ victims, ∀ name ∈ state.names,
      victim.nodes.count name ≤ 1) :
    (state.dismissAll preemptor victims).freeCount =
      state.freeCount + (victims.map state.usableNodes).sum := by
  have hperm :
      ((state.dismissAll preemptor victims).freeNodes.map Node.name).Perm
        (state.freeNodes.map Node.name ++ victims.flatMap state.usableNames) :=
    freeNodes_dismissAll_perm hstate hdistinct honce
  simpa only [List.length_map, List.length_append, List.length_flatMap,
      length_usableNames, ← freeCount_eq_length] using
    hperm.length_eq

/-- If the free nodes are too few without those of a victim, then whatever is
chosen among them takes one of the victim's. -/
theorem exists_chosen_of_victim (hstate : state.Coherent)
    (hdistinct : (victims.map Holder.id).Nodup)
    (honce : ∀ victim ∈ victims, ∀ name ∈ state.names,
      victim.nodes.count name ≤ 1)
    {victim : Holder} (hvictim : victim ∈ victims) {chosen : List NodeName}
    (hchosen : chosen.Subperm
      ((state.dismissAll preemptor victims).freeNodes.map Node.name))
    (hneeded : state.freeCount + (victims.map state.usableNodes).sum <
      chosen.length + state.usableNodes victim) :
    ∃ name ∈ chosen, name ∈ victim.nodes := by
  by_contra hnone
  push Not at hnone
  -- Otherwise the choice and the victim's nodes would be apart, and more than
  -- there are.
  have hfree :
      ((state.dismissAll preemptor victims).freeNodes.map Node.name).Nodup :=
    nodup_freeNodes (coherent_dismissAll hstate victims)
  have hapart : (chosen ++ state.usableNames victim).Nodup := by
    rw [List.nodup_append']
    refine ⟨?_, nodup_usableNames hstate (honce victim hvictim), ?_⟩
    · obtain ⟨sub, hsame, hsub⟩ := hchosen
      exact hsame.nodup_iff.mp (hfree.sublist hsub)
    · intro name hname husable
      exact hnone name hname ((mem_usableNames_iff hstate).mp husable).1
  have hinside : chosen ++ state.usableNames victim ⊆
      (state.dismissAll preemptor victims).freeNodes.map Node.name := by
    intro name hname
    rcases List.mem_append.mp hname with hname | hname
    · exact hchosen.subset hname
    · exact (mem_freeNodes_dismissAll_iff hstate).mpr
        (Or.inr ⟨victim, hvictim, hname⟩)
  have hlength := (List.subperm_of_subset hapart hinside).length_le
  rw [List.length_append, length_usableNames, List.length_map,
    ← freeCount_eq_length,
    freeCount_dismissAll hstate hdistinct honce] at hlength
  omega

end Room

end ClusterTick.MatchState
