import ClusterTick.Proofs.Fixture.Plan
import ClusterTick.Proofs.Numeric.NumberText
import ClusterTick.Proofs.Tick.Cleanliness
import Mathlib.Data.List.Pairwise
import Mathlib.Data.List.ProdSigma

/-!
# Generated snapshots are clean

Whatever is drawn, the rows of a generated snapshot fit together, so it is a fit
input for a tick.  Names and ids are numbered, and no number is used twice as
long as the ids of all tasks are different words.
-/

namespace ClusterTick.Generator

section Names

variable {left right : Nat}

theorem numbered_inj {stem : String}
    (hsame : numbered stem left = numbered stem right) : left = right := by
  have htext := congrArg String.toList hsame
  simp only [numbered, String.toList_append, String.toList_ofList,
    List.append_cancel_left_eq] at htext
  exact decimalDigits_injective htext

theorem nodeName_inj (hsame : nodeName left = nodeName right) : left = right :=
  numbered_inj (Label.mk.inj hsame)

private theorem userName_inj (hsame : userName left = userName right) :
    left = right :=
  numbered_inj (Label.mk.inj hsame)

/-- The chain of a task, whose name ends where the digits of the user end. -/
def chainName (user index : Nat) : String :=
  numbered (numbered "" user ++ "-") index

private theorem toList_chainName (user index : Nat) :
    (chainName user index).toList =
      decimalDigits user ++ '-' :: decimalDigits index := by
  simp [chainName, numbered]

private theorem chainName_inj {user index otherUser otherIndex : Nat}
    (hsame : chainName user index = chainName otherUser otherIndex) :
    user = otherUser ∧ index = otherIndex := by
  have hdash : ∀ number, '-' ∉ decimalDigits number := fun number hmem =>
    absurd (isDecimalDigit_of_mem hmem) (by decide)
  have htext := congrArg (fun text => Text.splitAtFirst? '-' text.toList) hsame
  simp only [toList_chainName, Text.splitAtFirst?_append (hdash _),
    Option.some.injEq, Prod.mk.injEq] at htext
  exact ⟨decimalDigits_injective htext.1, decimalDigits_injective htext.2⟩

end Names

section Positions

variable {config : GeneratorConfig}

private theorem mem_positions_iff {user index : Nat} :
    (user, index) ∈ positions config ↔
      user < config.userCount.toNat ∧ index < config.tasksPerUser.toNat := by
  simp [positions]

private theorem nodup_positions : (positions config).Nodup :=
  List.Nodup.product List.nodup_range List.nodup_range

/-- Positions have ids of their own if the ids of all of them are words. -/
theorem taskId_inj
    (hfits : config.userCount.toNat * config.tasksPerUser.toNat < UInt64.size)
    {left right : Nat × Nat} (hleft : left ∈ positions config)
    (hright : right ∈ positions config)
    (hsame : taskId config left.1 left.2 = taskId config right.1 right.2) :
    left = right := by
  have hnumber : ∀ position ∈ positions config,
      (taskId config position.1 position.2).value.toNat =
        position.1 * config.tasksPerUser.toNat + position.2 := by
    intro position hposition
    obtain ⟨huser, hindex⟩ := mem_positions_iff.mp hposition
    apply UInt64.toNat_ofNat_of_lt'
    calc
      position.1 * config.tasksPerUser.toNat + position.2
      _ < (position.1 + 1) * config.tasksPerUser.toNat := by
        rw [Nat.succ_mul]
        exact Nat.add_lt_add_left hindex _
      _ ≤ config.userCount.toNat * config.tasksPerUser.toNat :=
        Nat.mul_le_mul_right _ huser
      _ < UInt64.size := hfits
  have hnumbers := congrArg (fun id : TaskId => id.value.toNat) hsame
  simp only [hnumber left hleft, hnumber right hright] at hnumbers
  have huser : ∀ position ∈ positions config,
      (position.1 * config.tasksPerUser.toNat + position.2) /
          config.tasksPerUser.toNat = position.1 := by
    intro position hposition
    have hindex := (mem_positions_iff.mp hposition).2
    rw [Nat.mul_comm, Nat.mul_add_div (Nat.zero_lt_of_lt hindex),
      Nat.div_eq_of_lt hindex, Nat.add_zero]
  have hsameUser : left.1 = right.1 := by
    rw [← huser left hleft, hnumbers, huser right hright]
  rw [hsameUser, Nat.add_left_cancel_iff] at hnumbers
  exact Prod.ext hsameUser hnumbers

end Positions

section Rows

variable {config : GeneratorConfig} (draws : Draws config)

/-- The plan of all tasks. -/
def fullPlan : List PlannedTask := plan draws (positions config) draws.pool

/-- No node is given away twice. -/
theorem nodup_indexes :
    ((fullPlan draws).flatMap PlannedTask.indexes).Nodup := by
  obtain ⟨part, hperm, hpart⟩ :=
    indexes_plan_subperm draws (positions config) draws.pool
  exact hperm.nodup_iff.mp
    ((draws.pool_perm.nodup_iff.mpr List.nodup_range).sublist hpart)

/-- What is told apart by positions differs between the planned tasks. -/
theorem nodup_map_fullPlan {β : Type} {row : Nat × Nat → β}
    (hinj : ∀ left ∈ positions config, ∀ right ∈ positions config,
      row left = row right → left = right) :
    ((fullPlan draws).map fun planned =>
      row (planned.user, planned.index)).Nodup := by
  have hrows :
      (fullPlan draws).map (fun planned => row (planned.user, planned.index)) =
        (positions config).map row := by
    rw [← map_position_plan draws (positions config) draws.pool, List.map_map]
    rfl
  rw [hrows]
  exact nodup_positions.map_on hinj

variable {draws} {planned : PlannedTask}

/-- Only nodes of the snapshot are given away. -/
theorem index_lt (hplanned : planned ∈ fullPlan draws) {index : Nat}
    (hindex : index ∈ planned.indexes) : index < config.nodeCount.toNat := by
  have hgiven : index ∈ (fullPlan draws).flatMap PlannedTask.indexes :=
    List.mem_flatMap.mpr ⟨planned, hplanned, hindex⟩
  exact List.mem_range.mp
    (draws.pool_perm.subset ((indexes_plan_subperm draws _ _).subset hgiven))

private theorem eq_of_index_mem {other : PlannedTask}
    (hplanned : planned ∈ fullPlan draws) (hother : other ∈ fullPlan draws)
    {index : Nat} (hindex : index ∈ planned.indexes)
    (hotherIndex : index ∈ other.indexes) : planned = other := by
  by_contra hne
  have hsymm : Std.Symm (Function.onFun List.Disjoint PlannedTask.indexes) :=
    ⟨fun _ _ hapart _ hright hleft => hapart hleft hright⟩
  have hdisjoint := (List.nodup_flatMap.mp (nodup_indexes draws)).2
  exact hdisjoint.forall hplanned hother hne hindex hotherIndex

private theorem isScheduled_task :
    (task config planned).isScheduled = planned.placed.isSome := by
  cases hplaced : planned.placed <;> simp [task, Task.isScheduled, hplaced]

private theorem wanted_le (hplanned : planned ∈ fullPlan draws) :
    planned.wanted ≤ 60 := by
  have hwanted := (draws.task planned.user planned.index).wanted_mem
  rw [(wanted_of_mem_plan hplanned).1]
  split at hwanted <;> omega

private theorem toNat_nodes_task (hplanned : planned ∈ fullPlan draws) :
    (task config planned).nodes.toNat = planned.wanted := by
  have hle := wanted_le hplanned
  exact UInt32.toNat_ofNat_of_lt' (by simp only [UInt32.size]; omega)

end Rows

section Snapshot

variable {config : GeneratorConfig} (draws : Draws config) (takenAt : Instant)

theorem tasks_snapshotOf :
    (snapshotOf draws takenAt).tasks = (fullPlan draws).map (task config) := rfl

private theorem mem_tasks_iff {row : Task} :
    row ∈ (snapshotOf draws takenAt).tasks ↔
      ∃ planned ∈ fullPlan draws, task config planned = row :=
  List.mem_map

private theorem map_name_nodes :
    (snapshotOf draws takenAt).nodes.map Node.name =
      (List.range config.nodeCount.toNat).map nodeName := by
  simp only [snapshotOf, List.map_map]
  rfl

private theorem nodeName_mem_assignedNodes_iff {planned : PlannedTask}
    {index : Nat} :
    nodeName index ∈ (task config planned).assignedNodes ↔
      index ∈ planned.indexes :=
  List.mem_map_of_injective fun _ _ => nodeName_inj

theorem clean_snapshotOf
    (hfits : config.userCount.toNat * config.tasksPerUser.toNat < UInt64.size) :
    (snapshotOf draws takenAt).Clean where
  nodeNames := by
    rw [map_name_nodes]
    exact List.nodup_range.map fun _ _ => nodeName_inj
  taskIds := by
    rw [tasks_snapshotOf, List.map_map]
    exact nodup_map_fullPlan draws fun _ hleft _ hright =>
      taskId_inj hfits hleft hright
  chainIds := by
    rw [tasks_snapshotOf, List.map_map]
    exact nodup_map_fullPlan draws fun _ _ _ _ hsame =>
      Prod.ext_iff.mpr (chainName_inj (Label.mk.inj hsame))
  userNames := by
    simp only [snapshotOf, List.map_map]
    exact List.nodup_range.map fun _ _ => userName_inj
  scheduled := by
    intro row hrow hscheduled
    obtain ⟨planned, hplanned, rfl⟩ := (mem_tasks_iff draws takenAt).mp hrow
    rw [isScheduled_task] at hscheduled
    have hnodup : planned.indexes.Nodup :=
      (List.nodup_flatMap.mp (nodup_indexes draws)).1 planned hplanned
    refine ⟨?_, hnodup.map fun _ _ => nodeName_inj, ?_⟩
    · rw [toNat_nodes_task hplanned,
        ← (wanted_of_mem_plan hplanned).2 hscheduled]
      exact List.length_map _
    · rw [map_name_nodes]
      exact List.map_subset _ fun index hindex =>
        List.mem_range.mpr (index_lt hplanned hindex)
  queued := by
    intro row hrow hwaiting
    obtain ⟨planned, hplanned, rfl⟩ := (mem_tasks_iff draws takenAt).mp hrow
    rw [isScheduled_task, Option.isSome_eq_false_iff,
      Option.isNone_iff_eq_none] at hwaiting
    simp [task, Task.isQueued, hwaiting]
  apart := by
    intro left hleft right hright name hleftListed hrightListed
    obtain ⟨planned, hplanned, rfl⟩ := (mem_tasks_iff draws takenAt).mp hleft
    obtain ⟨other, hother, rfl⟩ := (mem_tasks_iff draws takenAt).mp hright
    obtain ⟨index, hindex, rfl⟩ := List.mem_map.mp hleftListed
    rw [eq_of_index_mem hplanned hother hindex
      (nodeName_mem_assignedNodes_iff.mp hrightListed)]
  occupancy := by
    intro row hrow id
    obtain ⟨index, hindex, rfl⟩ := List.mem_map.mp hrow
    have hheld :
        (node (draws.inFirstRoom index)
              ((holders config (fullPlan draws))[index]?.getD none)
              index).working = some id ↔
          ∃ given ∈ fullPlan draws, index ∈ given.indexes ∧
            taskId config given.user given.index = id :=
      holders_getD_eq_some_iff (nodup_indexes draws) (List.mem_range.mp hindex)
    refine hheld.trans ?_
    constructor
    · rintro ⟨given, hgiven, hmem, rfl⟩
      exact ⟨task config given, List.mem_map_of_mem hgiven, rfl,
        nodeName_mem_assignedNodes_iff.mpr hmem⟩
    · rintro ⟨row, hrow, rfl, hlisted⟩
      obtain ⟨given, hgiven, rfl⟩ := (mem_tasks_iff draws takenAt).mp hrow
      exact ⟨given, hgiven, nodeName_mem_assignedNodes_iff.mp hlisted, rfl⟩

/-- As many rows as a configuration asks for. -/
structure HasShape (config : GeneratorConfig) (snapshot : Snapshot) : Prop where
  nodes : snapshot.nodes.length = config.nodeCount.toNat
  tasks :
    snapshot.tasks.length = config.userCount.toNat * config.tasksPerUser.toNat
  users : snapshot.users.length = config.userCount.toNat

theorem hasShape_snapshotOf : HasShape config (snapshotOf draws takenAt) where
  nodes := by simp [snapshotOf]
  tasks := by
    have hpositions :=
      congrArg List.length
        (map_position_plan draws (positions config) draws.pool)
    rw [List.length_map] at hpositions
    rw [tasks_snapshotOf, List.length_map, fullPlan, hpositions]
    simp [positions, List.length_flatMap]
  users := by simp [snapshotOf]

/-- A generated snapshot has all its rows and is clean, whatever is drawn, and a
tick has nothing to remark about it. -/
theorem snapshotOf_clean
    (hfits : config.userCount.toNat * config.tasksPerUser.toNat < UInt64.size) :
    HasShape config (snapshotOf draws takenAt) ∧
      (snapshotOf draws takenAt).Clean ∧
      ∀ defaultGroup,
        (WorkingSet.ofSnapshot (snapshotOf draws takenAt)
          defaultGroup).Unremarkable := by
  have hclean := clean_snapshotOf draws takenAt hfits
  refine ⟨hasShape_snapshotOf draws takenAt, hclean, fun defaultGroup => ?_⟩
  exact WorkingSet.unremarkable_ofSnapshot defaultGroup hclean

/-- A few users on a small cluster. -/
def smallConfig : GeneratorConfig :=
  { userCount := 4, tasksPerUser := 20, nodeCount := 120 }

theorem snapshotOf_clean_smallConfig :
    4 * 20 < UInt64.size ∧ HasShape smallConfig (generate smallConfig default) ∧
      (generate smallConfig default).Clean ∧
      ∀ defaultGroup,
        (WorkingSet.ofSnapshot (generate smallConfig default)
          defaultGroup).Unremarkable :=
  ⟨by decide, snapshotOf_clean (Draws.ofSeed smallConfig) default (by decide)⟩

end Snapshot

end ClusterTick.Generator
