import ClusterTick.Fixture.Scenario
import ClusterTick.Proofs.Rules.DoubleBooking
import ClusterTick.Proofs.Tick.WorkingSet

/-!
# What a conflict says

A conflict is meant to be the claim of a node that an earlier row holds.  That
is what is recorded of a task as long as the task does not name one of its own
nodes twice: a second mention of a node that the task holds itself is recorded
like the claim of a rival, with the task as its own holder.
-/

namespace ClusterTick.WorkingSet

section Names

variable {active : NodeName → Bool} {holder? : NodeName → Option TaskId}
  {id : TaskId} {seen : List NodeName}

/-- The first contested listing: what stands before it is not contested. -/
theorem exists_of_head?_contestedNames {names : List NodeName}
    {conflict : NodeConflict}
    (hhead : (contestedNames active holder? id seen names).head? =
      some conflict) :
    ∃ listed rest, names = listed ++ conflict.node :: rest ∧
      contestedNames active holder? id seen listed = [] ∧
      holder? conflict.node = some conflict.holder ∧
      (conflict.holder ≠ id ∨ conflict.node ∈ seen ∨
        conflict.node ∈ listed) := by
  induction names generalizing seen with
  | nil => cases hhead
  | cons name rest ih =>
    by_cases hcontested : ∃ holder, holder? name = some holder ∧ active name ∧
        (holder ≠ id ∨ name ∈ seen)
    · obtain ⟨holder, hholder, hactive, hreason⟩ := hcontested
      simp only [contestedNames, hholder, if_pos (And.intro hactive hreason),
        List.head?_cons, Option.some.injEq] at hhead
      obtain rfl := hhead
      exact ⟨[], rest, rfl, rfl, hholder, hreason.imp_right Or.inl⟩
    · have hskip (later : List NodeName) :
          contestedNames active holder? id seen (name :: later) =
            contestedNames active holder? id (name :: seen) later := by
        simp only [contestedNames]
        split
        · next holder hholder =>
            exact if_neg fun h => hcontested ⟨holder, hholder, h⟩
        · rfl
      rw [hskip] at hhead
      obtain ⟨listed, rest, rfl, hfree, hholder, hreason⟩ := ih hhead
      refine ⟨name :: listed, rest, rfl, (hskip listed).trans hfree, hholder,
        ?_⟩
      simp only [List.mem_cons] at hreason ⊢
      tauto

/-- What is listed first is contested first. -/
theorem contestedNames_append (earlier later : List NodeName) :
    contestedNames active holder? id seen (earlier ++ later) =
      contestedNames active holder? id seen earlier ++
        contestedNames active holder? id (earlier.reverse ++ seen) later := by
  induction earlier generalizing seen with
  | nil => rfl
  | cons name rest ih =>
    simp only [List.cons_append, contestedNames, ih, List.reverse_cons,
      List.append_assoc, List.nil_append]
    split
    · split <;> rfl
    · rfl

/-- Names that are not active do not matter. -/
theorem contestedNames_filter {others : List NodeName}
    (hseen : ∀ name, active name → (name ∈ seen ↔ name ∈ others))
    (names : List NodeName) :
    contestedNames active holder? id seen names =
      contestedNames active holder? id others (names.filter active) := by
  induction names generalizing seen others with
  | nil => rfl
  | cons name rest ih =>
    cases hactive : active name with
    | true =>
      have hnames : ∀ other, active other →
          (other ∈ name :: seen ↔ other ∈ name :: others) := by
        intro other hother
        rw [List.mem_cons, List.mem_cons, hseen other hother]
      simp only [List.filter_cons_of_pos hactive, contestedNames, ih hnames,
        hseen name hactive]
    | false =>
      have hnames :
          ∀ other, active other → (other ∈ name :: seen ↔ other ∈ others) := by
        intro other hother
        have hne : other ≠ name := by
          rintro rfl
          rw [hactive] at hother
          cases hother
        rw [List.mem_cons, hseen other hother, or_iff_right hne]
      simp only [List.filter_cons_of_neg (Bool.eq_false_iff.mp hactive),
        contestedNames, ih hnames, hactive, Bool.false_eq_true, false_and,
        if_false]
      split <;> rfl

end Names

/-- The active nodes that a task lists, as often as it lists them. -/
def activeListing (set : WorkingSet) (prepared : PreparedTask) :
    List NodeName :=
  prepared.task.assignedNodes.filter fun name =>
    set.nodes.any fun node => node.name = name

/-- Whether a scheduled row of another task lists a node. -/
def IsClaimed (rows : List PreparedTask) (id : TaskId) (name : NodeName) :
    Prop :=
  ∃ row ∈ rows, row.id ≠ id ∧ row.task.isScheduled ∧
    name ∈ row.task.assignedNodes

/-- Whether no rule turns a task down for a node that is held. -/
def IsSpared (set : WorkingSet) (id : TaskId) : Prop :=
  ∀ (sizes : PartitionSizes) (node : NodeName) (holder : TaskId),
    let verdict := (Verdicts.under set sizes).forTask id
    Check.denied (.doubleBooked node holder) ∉
      [verdict.withinLimits, verdict.running, verdict.waiting]

/-- A conflict is the claim of an active node that an earlier row holds. -/
structure RecordsRivals (set : WorkingSet) : Prop where
  /-- A task has a conflict if it is scheduled and an earlier row lists one of
  its active nodes, and only then. -/
  recorded : ∀ earlier prepared later,
    set.tasks = earlier ++ prepared :: later →
    ((set.conflicts.get? prepared.id).isSome ↔
      prepared.task.isScheduled ∧
        ∃ name ∈ set.activeListing prepared, IsClaimed earlier prepared.id name)
  /-- Nobody else has one. -/
  known : ∀ id, (set.conflicts.get? id).isSome →
    ∃ prepared ∈ set.tasks, prepared.id = id
  /-- The holder is another task, in an earlier row that lists the node, and
  occupies it. -/
  held : ∀ earlier prepared later, set.tasks = earlier ++ prepared :: later →
    ∀ conflict, set.conflicts.get? prepared.id = some conflict →
    conflict.holder ≠ prepared.id ∧
      (∃ rival ∈ earlier, rival.id = conflict.holder ∧ rival.task.isScheduled ∧
        conflict.node ∈ rival.task.assignedNodes) ∧
      ∃ node ∈ set.nodes, node.name = conflict.node ∧
        node.working = some conflict.holder
  /-- A scheduled task that shares no active node with another one is not turned
  down for a node that is held. -/
  spared : ∀ prepared ∈ set.tasks, prepared.task.isScheduled →
    (∀ name ∈ set.activeListing prepared,
      ¬ IsClaimed set.tasks prepared.id name) →
    set.IsSpared prepared.id

/-- A conflict is the claim of an active node that an earlier row holds, or that
the task itself has listed before. -/
structure RecordsListings (set : WorkingSet) : Prop where
  recorded : ∀ earlier prepared later,
    set.tasks = earlier ++ prepared :: later →
    ((set.conflicts.get? prepared.id).isSome ↔
      prepared.task.isScheduled ∧
        ∃ name ∈ set.activeListing prepared,
          IsClaimed earlier prepared.id name ∨
            2 ≤ (set.activeListing prepared).count name)
  known : ∀ id, (set.conflicts.get? id).isSome →
    ∃ prepared ∈ set.tasks, prepared.id = id
  /-- The holder occupies the node and is in an earlier row that lists it, or is
  the task itself, which then lists the node twice. -/
  held : ∀ earlier prepared later, set.tasks = earlier ++ prepared :: later →
    ∀ conflict, set.conflicts.get? prepared.id = some conflict →
    (∃ node ∈ set.nodes, node.name = conflict.node ∧
        node.working = some conflict.holder) ∧
      ((conflict.holder ≠ prepared.id ∧
          ∃ rival ∈ earlier, rival.id = conflict.holder ∧
            rival.task.isScheduled ∧ conflict.node ∈ rival.task.assignedNodes) ∨
        (conflict.holder = prepared.id ∧
          2 ≤ (set.activeListing prepared).count conflict.node))
  spared : ∀ prepared ∈ set.tasks, prepared.task.isScheduled →
    (∀ name ∈ set.activeListing prepared,
      ¬ IsClaimed set.tasks prepared.id name) →
    (set.activeListing prepared).Nodup → set.IsSpared prepared.id

/-- Whether a task lists an active node again before it has listed one that an
earlier row holds. -/
def RepeatsOwnFirst (set : WorkingSet) (earlier : List PreparedTask)
    (prepared : PreparedTask) : Prop :=
  ∃ listed name rest, set.activeListing prepared = listed ++ name :: rest ∧
    name ∈ listed ∧ ∀ other ∈ listed, ¬ IsClaimed earlier prepared.id other

/-- Without a conflict a task is not turned down for a node that is held. -/
theorem isSpared_of_get?_eq_none {set : WorkingSet} {id : TaskId}
    (hnone : set.conflicts.get? id = none) : set.IsSpared id := by
  intro sizes node holder
  simp only [List.mem_cons, List.not_mem_nil, or_false, not_or]
  refine ⟨fun h => ?_, fun h => ?_, fun h => ?_⟩
  · exact QuotaAdmission.not_doubleBooking_walk h.symm trivial
  · rw [conflict_of_mayKeepRunning h.symm] at hnone
    cases hnone
  · exact not_doubleBooking_mayStart h.symm trivial

section Rows

/-- A name that is listed twice is listed again behind its first mention. -/
theorem exists_repeat {names : List NodeName} {name : NodeName}
    (htwice : 2 ≤ names.count name) :
    ∃ listed rest, names = listed ++ name :: rest ∧ name ∈ listed := by
  have hmem : name ∈ names := List.count_pos_iff.mp (by omega)
  obtain ⟨before, after, rfl, hfresh⟩ := List.eq_append_cons_of_mem hmem
  have hagain : name ∈ after := by
    rw [List.count_append, List.count_cons_self,
      List.count_eq_zero.mpr hfresh] at htwice
    exact List.count_pos_iff.mp (by omega)
  obtain ⟨between, rest, rfl⟩ := List.append_of_mem hagain
  exact ⟨before ++ name :: between, rest, by simp, by simp⟩

/-- A node that a scheduled row lists is held by an earlier row that lists it,
or else by the row itself. -/
theorem exists_holder?_of_split {earlier later : List PreparedTask}
    {prepared : PreparedTask}
    (hids : ((earlier ++ prepared :: later).map PreparedTask.id).Nodup)
    (hscheduled : prepared.task.isScheduled) {name : NodeName}
    (hlisted : name ∈ prepared.task.assignedNodes) :
    ∃ holder,
      holder? ((earlier ++ prepared :: later).map PreparedTask.task) name =
        some holder ∧
      ((holder = prepared.id ∧ ¬ IsClaimed earlier prepared.id name) ∨
        (holder ≠ prepared.id ∧
          ∃ rival ∈ earlier, rival.id = holder ∧ rival.task.isScheduled ∧
            name ∈ rival.task.assignedNodes)) := by
  rw [holder?, List.find?_map, Option.map_map, List.find?_append]
  cases hfound : earlier.find?
    ((fun task => task.isScheduled ∧ name ∈ task.assignedNodes) ∘
      PreparedTask.task) with
  | some rival =>
    have hrival : rival.task.isScheduled ∧ name ∈ rival.task.assignedNodes := by
      simpa using List.find?_some hfound
    have hmem := List.mem_of_find?_eq_some hfound
    refine ⟨rival.id, rfl, Or.inr ⟨?_, rival, hmem, rfl, hrival⟩⟩
    intro hsame
    rw [List.map_append, List.map_cons, List.nodup_append] at hids
    exact hids.2.2 _ (List.mem_map_of_mem hmem) _ List.mem_cons_self hsame
  | none =>
    refine ⟨prepared.id, ?_, Or.inl ⟨rfl, ?_⟩⟩
    · simp [hscheduled, hlisted, PreparedTask.id]
    · rintro ⟨rival, hmem, -, hrival⟩
      simpa [hrival] using List.find?_eq_none.mp hfound rival hmem

variable {snapshot : Snapshot} {defaultGroup : GroupName}

variable (snapshot defaultGroup) in
private theorem map_task_tasks :
    (ofSnapshot snapshot defaultGroup).tasks.map PreparedTask.task =
      distinctTasks snapshot defaultGroup := by
  simp only [ofSnapshot, List.map_map, Function.comp_def]
  exact List.map_id' _

variable (snapshot defaultGroup) in
private theorem any_name_nodes (name : NodeName) :
    (ofSnapshot snapshot defaultGroup).nodes.any
        (fun node => node.name = name) =
      (activeNodes snapshot defaultGroup).any fun node => node.name = name := by
  rw [nodes_ofSnapshot, List.any_map]
  rfl

variable (snapshot defaultGroup) in
/-- The contested ones among active nodes that a task lists. -/
def contestedAmong (prepared : PreparedTask) :
    List NodeName → List NodeConflict :=
  contestedNames
    (fun name =>
      (ofSnapshot snapshot defaultGroup).nodes.any fun node => node.name = name)
    (holder? (distinctTasks snapshot defaultGroup)) prepared.id []

/-- The conflict of a scheduled task is the first contested listing of an active
node. -/
theorem get?_conflicts {prepared : PreparedTask}
    (hmem : prepared ∈ (ofSnapshot snapshot defaultGroup).tasks) :
    (ofSnapshot snapshot defaultGroup).conflicts.get? prepared.id =
      if prepared.task.isScheduled then
        (contestedAmong snapshot defaultGroup prepared
          ((ofSnapshot snapshot defaultGroup).activeListing prepared)).head?
      else none := by
  have hcontested : contested (activeNodes snapshot defaultGroup)
      (distinctTasks snapshot defaultGroup) prepared.task =
        if prepared.task.isScheduled then
          contestedAmong snapshot defaultGroup prepared
            ((ofSnapshot snapshot defaultGroup).activeListing prepared)
        else [] := by
    simp only [contested, contestedAmong, activeListing, any_name_nodes]
    rw [← contestedNames_filter fun _ _ => Iff.rfl]
    rfl
  have hfound :=
    OrderedMap.get?_ofList_filterMap (nodup_distinctTasks snapshot defaultGroup)
      (fun task =>
        (contested (activeNodes snapshot defaultGroup)
          (distinctTasks snapshot defaultGroup) task).head?)
      (mem_ofSnapshot_tasks snapshot defaultGroup hmem)
  rw [hcontested] at hfound
  rw [conflicts_ofSnapshot]
  refine hfound.trans ?_
  split <;> rfl

section Split

variable {earlier later : List PreparedTask} {prepared : PreparedTask}
  (hsplit : (ofSnapshot snapshot defaultGroup).tasks =
    earlier ++ prepared :: later)
  (hscheduled : prepared.task.isScheduled)

include hsplit hscheduled

theorem exists_holder? {name : NodeName}
    (hlisted : name ∈
      (ofSnapshot snapshot defaultGroup).activeListing prepared) :
    ∃ holder, holder? (distinctTasks snapshot defaultGroup) name = some holder ∧
      ((holder = prepared.id ∧ ¬ IsClaimed earlier prepared.id name) ∨
        (holder ≠ prepared.id ∧
          ∃ rival ∈ earlier, rival.id = holder ∧ rival.task.isScheduled ∧
            name ∈ rival.task.assignedNodes)) := by
  have hids := (consistent_ofSnapshot snapshot defaultGroup).taskIds
  rw [hsplit] at hids
  rw [← map_task_tasks, hsplit]
  exact exists_holder?_of_split hids hscheduled (List.mem_filter.mp hlisted).1

/-- An active node is held by the task exactly if no earlier row claims it. -/
theorem holder?_eq_id_iff {name : NodeName}
    (hlisted : name ∈
      (ofSnapshot snapshot defaultGroup).activeListing prepared) :
    holder? (distinctTasks snapshot defaultGroup) name = some prepared.id ↔
      ¬ IsClaimed earlier prepared.id name := by
  obtain ⟨holder, hholder,
      ⟨rfl, hunclaimed⟩ | ⟨hother, rival, hmem, rfl, hrival⟩⟩ :=
    exists_holder? hsplit hscheduled hlisted
  · exact iff_of_true hholder hunclaimed
  · refine iff_of_false ?_ (not_not.mpr ⟨rival, hmem, hother, hrival⟩)
    rw [hholder, Option.some.injEq]
    exact hother

/-- Nothing is contested exactly if no earlier row claims a node and none is
listed twice. -/
theorem contestedAmong_eq_nil_iff {names : List NodeName}
    (hsub : names ⊆ (ofSnapshot snapshot defaultGroup).activeListing prepared) :
    contestedAmong snapshot defaultGroup prepared names = [] ↔
      ∀ name ∈ names,
        ¬ IsClaimed earlier prepared.id name ∧ names.count name = 1 := by
  constructor
  · intro hnone name hname
    obtain ⟨holder, hholder, -⟩ := exists_holder? hsplit hscheduled (hsub hname)
    obtain ⟨rfl, -, hcount⟩ := held_of_contestedNames_eq_nil hnone hname
      (List.mem_filter.mp (hsub hname)).2 hholder
    exact ⟨(holder?_eq_id_iff hsplit hscheduled (hsub hname)).mp hholder,
      hcount⟩
  · intro hheld
    apply contestedNames_eq_nil
    intro name hname _
    exact ⟨(holder?_eq_id_iff hsplit hscheduled (hsub hname)).mpr
        (hheld name hname).1, (hheld name hname).2, List.not_mem_nil⟩

/-- The first contested listing is an active node with its occupant, and either
an earlier row holds the node or the task has listed it before. -/
theorem of_contestedAmong {names : List NodeName}
    (hsub : names ⊆ (ofSnapshot snapshot defaultGroup).activeListing prepared)
    {conflict : NodeConflict}
    (hhead : (contestedAmong snapshot defaultGroup prepared names).head? =
      some conflict) :
    conflict.node ∈ names ∧
      (∃ node ∈ (ofSnapshot snapshot defaultGroup).nodes,
        node.name = conflict.node ∧ node.working = some conflict.holder) ∧
      ((conflict.holder ≠ prepared.id ∧
          ∃ rival ∈ earlier, rival.id = conflict.holder ∧
            rival.task.isScheduled ∧ conflict.node ∈ rival.task.assignedNodes) ∨
        (conflict.holder = prepared.id ∧
          ∃ listed rest, names = listed ++ conflict.node :: rest ∧
            conflict.node ∈ listed ∧
            ∀ other ∈ listed, ¬ IsClaimed earlier prepared.id other)) := by
  obtain ⟨listed, rest, rfl, hfree, hholder, hreason⟩ :=
    exists_of_head?_contestedNames hhead
  have hmem : conflict.node ∈ listed ++ conflict.node :: rest := by simp
  obtain ⟨hlisted, hactive⟩ := List.mem_filter.mp (hsub hmem)
  refine ⟨hmem, ?_, ?_⟩
  · obtain ⟨node, hnode, hname⟩ := List.any_eq_true.mp hactive
    have hname : node.name = conflict.node := by simpa using hname
    refine ⟨node, hnode, hname, ?_⟩
    rw [(mem_ofSnapshot_nodes snapshot defaultGroup hnode).2, hname, hholder]
  · obtain ⟨holder, hsome, hcases⟩ :=
      exists_holder? hsplit hscheduled (hsub hmem)
    obtain rfl : holder = conflict.holder :=
      Option.some.inj (hsome.symm.trans hholder)
    rcases hcases with ⟨hown, -⟩ | hrival
    · have hrepeated : conflict.node ∈ listed := by
        rcases hreason with hother | hseen | hrepeated
        · exact absurd hown hother
        · cases hseen
        · exact hrepeated
      have hbefore := (contestedAmong_eq_nil_iff hsplit hscheduled
        (List.Subset.trans (List.subset_append_left _ _) hsub)).mp hfree
      exact Or.inr ⟨hown, listed, rest, rfl, hrepeated,
        fun other hother => (hbefore other hother).1⟩
    · exact Or.inl hrival

end Split

section Recorded

variable {earlier later : List PreparedTask} {prepared : PreparedTask}
  (hsplit : (ofSnapshot snapshot defaultGroup).tasks =
    earlier ++ prepared :: later)

include hsplit

/-- A task has a conflict exactly if it is scheduled and lists an active node
that an earlier row lists, or lists one twice. -/
theorem isSome_conflicts_iff :
    ((ofSnapshot snapshot defaultGroup).conflicts.get? prepared.id).isSome ↔
      prepared.task.isScheduled ∧
        ∃ name ∈ (ofSnapshot snapshot defaultGroup).activeListing prepared,
          IsClaimed earlier prepared.id name ∨
            2 ≤
              ((ofSnapshot snapshot defaultGroup).activeListing prepared).count
                name := by
  have hmem : prepared ∈ (ofSnapshot snapshot defaultGroup).tasks :=
    hsplit ▸ by simp
  rw [get?_conflicts hmem]
  split
  case isFalse hidle => simp [hidle]
  case isTrue hscheduled =>
    rw [Option.isSome_iff_ne_none, Ne, List.head?_eq_none_iff,
      contestedAmong_eq_nil_iff hsplit hscheduled (List.Subset.refl _),
      and_iff_right hscheduled]
    simp only [not_forall, exists_prop, not_and_or, not_not]
    refine exists_congr fun name =>
      and_congr_right fun hname => or_congr_right ?_
    have hcount := List.count_pos_iff.mpr hname
    omega

theorem of_get?_conflicts {conflict : NodeConflict}
    (hconflict : (ofSnapshot snapshot defaultGroup).conflicts.get? prepared.id =
      some conflict) :
    prepared.task.isScheduled ∧
      (contestedAmong snapshot defaultGroup prepared
          ((ofSnapshot snapshot defaultGroup).activeListing prepared)).head? =
        some conflict := by
  have hmem : prepared ∈ (ofSnapshot snapshot defaultGroup).tasks :=
    hsplit ▸ by simp
  rw [get?_conflicts hmem] at hconflict
  split at hconflict
  · next hscheduled => exact ⟨hscheduled, hconflict⟩
  · cases hconflict

end Recorded

variable (snapshot defaultGroup)

/-- Who has a conflict is a task of the working set. -/
theorem exists_of_isSome_conflicts {id : TaskId}
    (hsome : ((ofSnapshot snapshot defaultGroup).conflicts.get? id).isSome) :
    ∃ prepared ∈ (ofSnapshot snapshot defaultGroup).tasks,
      prepared.id = id := by
  by_contra hnobody
  have hnone : (ofSnapshot snapshot defaultGroup).conflicts.get? id = none := by
    rw [conflicts_ofSnapshot, OrderedMap.get?_ofList_eq_none_iff]
    intro entry hentry hid
    obtain ⟨task, htask, hlisted⟩ := List.mem_filterMap.mp hentry
    obtain ⟨_, -, rfl⟩ := Option.map_eq_some_iff.mp hlisted
    exact hnobody ⟨_, List.mem_map_of_mem htask, hid⟩
  rw [hnone] at hsome
  cases hsome

/-- What is recorded, whatever the snapshot. -/
theorem recordsListings_ofSnapshot :
    (ofSnapshot snapshot defaultGroup).RecordsListings where
  recorded _ _ _ hsplit := isSome_conflicts_iff hsplit
  known _ := exists_of_isSome_conflicts snapshot defaultGroup
  held earlier prepared later hsplit conflict hconflict := by
    obtain ⟨hscheduled, hhead⟩ := of_get?_conflicts hsplit hconflict
    obtain ⟨-, hnode, hcases⟩ :=
      of_contestedAmong hsplit hscheduled (List.Subset.refl _) hhead
    refine ⟨hnode, hcases.imp_right ?_⟩
    rintro ⟨hown, listed, rest, hlisting, hrepeated, -⟩
    refine ⟨hown, ?_⟩
    have hcount := List.count_pos_iff.mpr hrepeated
    rw [hlisting, List.count_append, List.count_cons_self]
    omega
  spared prepared hmem hscheduled hunclaimed hdistinct := by
    obtain ⟨earlier, later, hsplit⟩ := List.append_of_mem hmem
    apply isSpared_of_get?_eq_none
    rw [← Option.not_isSome_iff_eq_none, isSome_conflicts_iff hsplit]
    rintro ⟨-, name, hname, ⟨rival, hrival, hclaims⟩ | htwice⟩
    · exact hunclaimed name hname
        ⟨rival, hsplit ▸ List.mem_append_left _ hrival, hclaims⟩
    · have honce := List.nodup_iff_count_le_one.mp hdistinct name
      omega

/-- A task that lists a node of its own again too early is recorded as its own
rival. -/
theorem holder_eq_of_repeatsOwnFirst {earlier later : List PreparedTask}
    {prepared : PreparedTask}
    (hsplit : (ofSnapshot snapshot defaultGroup).tasks =
      earlier ++ prepared :: later)
    (hscheduled : prepared.task.isScheduled)
    (hrepeats : (ofSnapshot snapshot defaultGroup).RepeatsOwnFirst earlier
      prepared) :
    ∃ conflict,
      (ofSnapshot snapshot defaultGroup).conflicts.get? prepared.id =
        some conflict ∧
      conflict.holder = prepared.id := by
  obtain ⟨listed, name, rest, hlisting, hrepeated, hunclaimed⟩ := hrepeats
  have hlisting' : (ofSnapshot snapshot defaultGroup).activeListing prepared =
      (listed ++ [name]) ++ rest := by simp [hlisting]
  have hsub : listed ++ [name] ⊆
      (ofSnapshot snapshot defaultGroup).activeListing prepared :=
    hlisting' ▸ List.subset_append_left _ _
  have hcontested :
      contestedAmong snapshot defaultGroup prepared (listed ++ [name]) ≠
        [] := by
    intro hnone
    have honce :=
      ((contestedAmong_eq_nil_iff hsplit hscheduled hsub).mp hnone name
        (by simp)).2
    have hcount := List.count_pos_iff.mpr hrepeated
    rw [List.count_append, List.count_singleton_self] at honce
    omega
  obtain ⟨conflict, more, hfirst⟩ := List.exists_cons_of_ne_nil hcontested
  refine ⟨conflict, ?_, ?_⟩
  · rw [get?_conflicts (hsplit ▸ by simp), if_pos hscheduled, hlisting',
      contestedAmong, contestedNames_append]
    rw [contestedAmong] at hfirst
    rw [hfirst]
    rfl
  · obtain ⟨hnode, -, ⟨hother, rival, hrival, hid, hclaims⟩ | ⟨hown, -⟩⟩ :=
      of_contestedAmong hsplit hscheduled hsub (by rw [hfirst]; rfl)
    · have hlisted : conflict.node ∈ listed := by
        rcases List.mem_append.mp hnode with hlisted | hlast
        · exact hlisted
        · rwa [List.mem_singleton.mp hlast]
      exact absurd ⟨rival, hrival, hid ▸ hother, hclaims⟩ (hunclaimed _ hlisted)
    · exact hown

/-- A task that does not list a node of its own again too early has a conflict
for a node of an earlier row. -/
private theorem exists_isClaimed_of_isSome {earlier later : List PreparedTask}
    {prepared : PreparedTask}
    (hsplit : (ofSnapshot snapshot defaultGroup).tasks =
      earlier ++ prepared :: later)
    (hcareful : prepared.task.isScheduled →
      ¬ (ofSnapshot snapshot defaultGroup).RepeatsOwnFirst earlier prepared)
    (hsome :
      ((ofSnapshot snapshot defaultGroup).conflicts.get? prepared.id).isSome) :
    ∃ name ∈ (ofSnapshot snapshot defaultGroup).activeListing prepared,
      IsClaimed earlier prepared.id name := by
  obtain ⟨hscheduled, name, hname, hclaimed | htwice⟩ :=
    (isSome_conflicts_iff hsplit).mp hsome
  · exact ⟨name, hname, hclaimed⟩
  · -- The second mention has a name of an earlier row in front of it.
    by_contra hunclaimed
    obtain ⟨listed, rest, hlisting, hrepeated⟩ := exists_repeat htwice
    refine hcareful hscheduled
      ⟨listed, name, rest, hlisting, hrepeated, fun other hother hclaims => ?_⟩
    exact hunclaimed
      ⟨other, hlisting ▸ List.mem_append_left _ hother, hclaims⟩

/-- Where no task lists a node of its own again too early, conflicts are claims
of nodes that an earlier row holds. -/
private theorem recordsRivals_of_careful
    (hcareful : ∀ earlier prepared later,
      (ofSnapshot snapshot defaultGroup).tasks =
        earlier ++ prepared :: later →
      prepared.task.isScheduled →
      ¬ (ofSnapshot snapshot defaultGroup).RepeatsOwnFirst earlier prepared) :
    (ofSnapshot snapshot defaultGroup).RecordsRivals where
  recorded earlier prepared later hsplit := by
    constructor
    · intro hsome
      exact ⟨((isSome_conflicts_iff hsplit).mp hsome).1,
        exists_isClaimed_of_isSome snapshot defaultGroup hsplit
          (hcareful earlier prepared later hsplit) hsome⟩
    · rintro ⟨hscheduled, name, hname, hclaims⟩
      exact (isSome_conflicts_iff hsplit).mpr
        ⟨hscheduled, name, hname, Or.inl hclaims⟩
  known _ := exists_of_isSome_conflicts snapshot defaultGroup
  held earlier prepared later hsplit conflict hconflict := by
    obtain ⟨hscheduled, hhead⟩ := of_get?_conflicts hsplit hconflict
    obtain ⟨-, hnode, ⟨hother, hrival⟩ | ⟨-, listed, rest, hrepeats⟩⟩ :=
      of_contestedAmong hsplit hscheduled (List.Subset.refl _) hhead
    · exact ⟨hother, hrival, hnode⟩
    · exact absurd ⟨listed, conflict.node, rest, hrepeats⟩
        (hcareful earlier prepared later hsplit hscheduled)
  spared prepared hmem hscheduled hunclaimed := by
    obtain ⟨earlier, later, hsplit⟩ := List.append_of_mem hmem
    apply isSpared_of_get?_eq_none
    rw [← Option.not_isSome_iff_eq_none]
    intro hsome
    obtain ⟨name, hname, rival, hrival, hclaims⟩ :=
      exists_isClaimed_of_isSome snapshot defaultGroup hsplit
        (hcareful earlier prepared later hsplit) hsome
    exact hunclaimed name hname
      ⟨rival, hsplit ▸ List.mem_append_left _ hrival, hclaims⟩

/-- Every conflict is the claim of a node that an earlier row holds, exactly if
no scheduled task lists a node of its own again before it has listed one of an
earlier row. -/
theorem recordsRivals_iff :
    (ofSnapshot snapshot defaultGroup).RecordsRivals ↔
      ∀ earlier prepared later,
        (ofSnapshot snapshot defaultGroup).tasks =
          earlier ++ prepared :: later →
        prepared.task.isScheduled →
        ¬ (ofSnapshot snapshot defaultGroup).RepeatsOwnFirst earlier
          prepared := by
  refine ⟨?_, recordsRivals_of_careful snapshot defaultGroup⟩
  intro hrivals earlier prepared later hsplit hscheduled hrepeats
  obtain ⟨conflict, hconflict, hown⟩ :=
    holder_eq_of_repeatsOwnFirst snapshot defaultGroup hsplit hscheduled
      hrepeats
  exact (hrivals.held earlier prepared later hsplit conflict hconflict).1 hown

/-- Conflicts are claims of nodes held by an earlier row, or second mentions of
a node that the task holds; they are only the former exactly if no scheduled
task lists a node of its own again before it has listed one of an earlier
row. -/
theorem conflicts_ofSnapshot_exact :
    (ofSnapshot snapshot defaultGroup).RecordsListings ∧
      ((ofSnapshot snapshot defaultGroup).RecordsRivals ↔
        ∀ earlier prepared later,
          (ofSnapshot snapshot defaultGroup).tasks =
            earlier ++ prepared :: later →
          prepared.task.isScheduled →
          ¬ (ofSnapshot snapshot defaultGroup).RepeatsOwnFirst earlier
            prepared) :=
  ⟨recordsListings_ofSnapshot snapshot defaultGroup,
    recordsRivals_iff snapshot defaultGroup⟩

end Rows

/-- A task that lists the one node it holds twice. -/
def nodeListedTwice : Snapshot :=
  { group := ⟨"train"⟩ : Scenario }
    |>.addReadyNode ⟨"n1"⟩ "room"
    |>.addUser { userName := ⟨"alice"⟩ }
    |>.addScheduled ⟨1⟩ ⟨"alice"⟩ 0 [⟨"n1"⟩, ⟨"n1"⟩]
    |>.changeLastTask (fun task => { task with nodes := 1 })
    |>.snapshot default

/-- The task is recorded as its own rival, where no other task exists. -/
theorem not_recordsRivals_nodeListedTwice :
    ¬ (ofSnapshot nodeListedTwice ⟨"default"⟩).RecordsRivals := by
  intro hrivals
  obtain ⟨prepared, htasks⟩ : ∃ prepared,
      (ofSnapshot nodeListedTwice ⟨"default"⟩).tasks = [prepared] :=
    List.length_eq_one_iff.mp (by decide +kernel)
  have hid : prepared.id = ⟨1⟩ := by
    have hids :
        (ofSnapshot nodeListedTwice ⟨"default"⟩).tasks.map PreparedTask.id =
          [⟨1⟩] := by
      decide +kernel
    simpa [htasks] using hids
  have hconflict :
      (ofSnapshot nodeListedTwice ⟨"default"⟩).conflicts.get? prepared.id =
        some { node := ⟨"n1"⟩, holder := ⟨1⟩ } := by
    rw [hid]
    decide +kernel
  exact (hrivals.held [] prepared [] htasks _ hconflict).1 hid.symm

end ClusterTick.WorkingSet
