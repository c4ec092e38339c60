import ClusterTick.Match.Placement
import Mathlib.Data.List.Perm.Subperm

/-!
# What a placement chooses

Both choices of nodes fail exactly when fewer nodes are free than asked for, and
otherwise name that many of the free nodes, none of them twice.
-/

namespace ClusterTick.Placement

variable {free : List Node} {preferred chosen : List NodeName} {count : Nat}

private theorem length_of_bestRoom? {room : String}
    (hroom : bestRoom? preferred free count = some room) :
    count ≤ (inRoom free room).length := by
  have hmem := List.mem_of_head? hroom
  rw [List.mem_mergeSort, largeRooms, List.mem_filter] at hmem
  simpa using hmem.2

theorem selectNodes_eq_none_iff :
    selectNodes free preferred count = none ↔ free.length < count := by
  simp [selectNodes]

theorem selectByName_eq_none_iff :
    selectByName free count = none ↔ free.length < count := by
  simp [selectByName]

/-- The nodes chosen for training work are as many free nodes as asked for. -/
theorem selectNodes_eq_some
    (hchosen : selectNodes free preferred count = some chosen) :
    chosen.length = count ∧ chosen.Subperm (free.map Node.name) := by
  rw [selectNodes] at hchosen
  split at hchosen
  · cases hchosen
  case isFalse henough =>
    obtain rfl := Option.some.inj hchosen
    split
    case h_1 room hroom =>
      have hperm := List.mergeSort_perm (inRoom free room) fun left right =>
        (compareInRoom preferred left right).isLE
      constructor
      · rw [List.length_map, List.length_take, List.length_mergeSort]
        exact Nat.min_eq_left (length_of_bestRoom? hroom)
      · have hsub := (List.take_sublist count _).subperm.trans
          (hperm.subperm.trans List.filter_sublist.subperm)
        obtain ⟨sub, hsame, hsublist⟩ := hsub
        exact ⟨sub.map Node.name, hsame.map _, hsublist.map _⟩
    case h_2 =>
      have hperm := List.mergeSort_perm free fun left right =>
        (compareAcrossRooms preferred left right).isLE
      constructor
      · rw [List.length_map, List.length_take, List.length_mergeSort]
        exact Nat.min_eq_left (Nat.le_of_not_lt henough)
      · obtain ⟨sub, hsame, hsublist⟩ :=
          (List.take_sublist count _).subperm.trans hperm.subperm
        exact ⟨sub.map Node.name, hsame.map _, hsublist.map _⟩

/-- So are those chosen for validation work. -/
theorem selectByName_eq_some (hchosen : selectByName free count = some chosen) :
    chosen.length = count ∧ chosen.Subperm (free.map Node.name) := by
  rw [selectByName] at hchosen
  split at hchosen
  · cases hchosen
  case isFalse henough =>
    obtain rfl := Option.some.inj hchosen
    constructor
    · rw [List.length_take, List.length_mergeSort, List.length_map]
      exact Nat.min_eq_left (Nat.le_of_not_lt henough)
    · exact (List.take_sublist count _).subperm.trans
        (List.mergeSort_perm _ _).subperm

end ClusterTick.Placement
