import ClusterTick.Fixture.Generator
import Mathlib.Data.List.Nodup
import Mathlib.Data.List.Perm.Subperm

/-!
# The plan of generated tasks

Each planned task that does not wait cuts its nodes off the end of the pool, and
those after it take theirs from what is left.  So the nodes that all tasks are
given form a part of the pool, whatever is drawn, and no node is given away
twice.  The tasks that hold the nodes are then found at the indexes that they
were given.
-/

namespace ClusterTick.Generator

/-- The nodes that a planned task is given. -/
def PlannedTask.indexes (planned : PlannedTask) : List Nat :=
  planned.placed.getD []

section Plan

variable {config : GeneratorConfig} (draws : Draws config)

/-- Every position gets its task. -/
theorem map_position_plan (positions : List (Nat × Nat)) (pool : List Nat) :
    (plan draws positions pool).map
        (fun planned => (planned.user, planned.index)) = positions := by
  induction positions generalizing pool with
  | nil => rfl
  | cons position rest ih =>
    simp only [plan]
    split
    · rw [List.map_cons, ih]
    · rw [List.map_cons, ih]

variable {draws} in
/-- A task needs what was drawn for it, and a task with nodes has as many as it
needs. -/
theorem wanted_of_mem_plan {positions : List (Nat × Nat)} {pool : List Nat}
    {planned : PlannedTask} (hplanned : planned ∈ plan draws positions pool) :
    planned.wanted = (draws.task planned.user planned.index).wanted ∧
      (planned.placed.isSome → planned.indexes.length = planned.wanted) := by
  induction positions generalizing pool with
  | nil => cases hplanned
  | cons position rest ih =>
    simp only [plan] at hplanned
    split at hplanned
    case isTrue henough =>
      rcases List.mem_cons.mp hplanned with rfl | hlater
      · rw [Bool.and_eq_true, decide_eq_true_eq] at henough
        refine ⟨rfl, fun _ => ?_⟩
        rw [PlannedTask.indexes, Option.getD_some, List.length_drop]
        exact Nat.sub_sub_self henough.2
      · exact ih hlater
    case isFalse =>
      rcases List.mem_cons.mp hplanned with rfl | hlater
      · exact ⟨rfl, fun hplaced => by cases hplaced⟩
      · exact ih hlater

/-- The nodes that are given away are a part of the pool. -/
theorem indexes_plan_subperm (positions : List (Nat × Nat)) (pool : List Nat) :
    ((plan draws positions pool).flatMap PlannedTask.indexes).Subperm pool := by
  induction positions generalizing pool with
  | nil => exact List.nil_subperm
  | cons position rest ih =>
    simp only [plan]
    split
    · -- What is left of the pool comes before what the task cuts off.
      have hsplit := List.take_append_drop
        (pool.length - (draws.task position.1 position.2).wanted) pool
      conv => rhs; rw [← hsplit]
      exact List.perm_append_comm.subperm.trans
        ((List.subperm_append_right _).mpr (ih _))
    · exact ih pool

end Plan

section Holders

variable {α : Type}

/-- After writes to different places, a place holds what was written there, or
else what it held before. -/
theorem getElem?_foldl_setIfInBounds {writes : List (Nat × α)}
    (hdistinct : (writes.map Prod.fst).Nodup) (held : Array (Option α))
    {index : Nat} {value : α} (hindex : index < held.size) :
    (writes.foldl (fun held write => held.setIfInBounds write.1 (some write.2))
          held)[index]? = some (some value) ↔
      (index, value) ∈ writes ∨
        index ∉ writes.map Prod.fst ∧ held[index]? = some (some value) := by
  induction writes generalizing held with
  | nil => simp
  | cons write rest ih =>
    obtain ⟨place, written⟩ := write
    rw [List.map_cons, List.nodup_cons] at hdistinct
    rw [List.foldl_cons, ih hdistinct.2 _ (by simpa using hindex),
      Array.getElem?_setIfInBounds]
    by_cases hplace : place = index
    · subst hplace
      have hrest : (place, value) ∉ rest := fun hmem =>
        hdistinct.1 (List.mem_map.mpr ⟨_, hmem, rfl⟩)
      simp [hindex, hdistinct.1, hrest, eq_comm]
    · simp [hplace, Ne.symm hplace]

variable {config : GeneratorConfig} {planned : List PlannedTask}

/-- The nodes that are given away, each with the task that gets it. -/
def grants (config : GeneratorConfig) (planned : List PlannedTask) :
    List (Nat × TaskId) :=
  planned.flatMap fun planned =>
    planned.indexes.map fun index =>
      (index, taskId config planned.user planned.index)

private theorem mem_grants_iff {index : Nat} {id : TaskId} :
    (index, id) ∈ grants config planned ↔
      ∃ given ∈ planned, index ∈ given.indexes ∧
        taskId config given.user given.index = id := by
  simp [grants]

private theorem map_fst_grants :
    (grants config planned).map Prod.fst =
      planned.flatMap PlannedTask.indexes := by
  simp [grants, List.map_flatMap, Function.comp_def]

private theorem holders_eq :
    holders config planned =
      (grants config planned).foldl
        (fun held grant => held.setIfInBounds grant.1 (some grant.2))
        (Array.replicate config.nodeCount.toNat none) := by
  rw [grants, List.foldl_flatMap]
  simp only [List.foldl_map]
  rfl

/-- Where no node is given away twice, a node is held by the task that it was
given to. -/
theorem holders_getD_eq_some_iff
    (hdistinct : (planned.flatMap PlannedTask.indexes).Nodup) {index : Nat}
    (hindex : index < config.nodeCount.toNat) {id : TaskId} :
    (holders config planned)[index]?.getD none = some id ↔
      ∃ given ∈ planned, index ∈ given.indexes ∧
        taskId config given.user given.index = id := by
  have hheld : (holders config planned)[index]?.getD none = some id ↔
      (holders config planned)[index]? = some (some id) := by
    cases (holders config planned)[index]? <;> simp
  rw [hheld, holders_eq,
    getElem?_foldl_setIfInBounds (by rwa [map_fst_grants]) _ (by simpa),
    mem_grants_iff]
  simp [hindex]

end Holders

end ClusterTick.Generator
