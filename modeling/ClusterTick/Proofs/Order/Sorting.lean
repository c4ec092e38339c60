import ClusterTick.Proofs.Order.OrderedMap

/-!
# Sorting by a comparison

A sort by a transitive comparison puts rows in its order, and rows that are in
strict order already stay as they are.  Rows with distinct keys that are sorted
by key stand in strict order, so only one list has them.
-/

namespace ClusterTick

variable {α : Type} (cmp : α → α → Ordering)

theorem pairwise_mergeSort_isLE [Std.TransCmp cmp] (rows : List α) :
    (rows.mergeSort fun left right => (cmp left right).isLE).Pairwise
      fun left right => (cmp left right).isLE := by
  apply List.pairwise_mergeSort
  · intro first second third hfirst hsecond
    exact Std.TransCmp.isLE_trans hfirst hsecond
  · intro left right
    have hswap : cmp right left = (cmp left right).swap :=
      Std.OrientedCmp.eq_swap
    cases horder : cmp left right <;> simp [hswap, horder]

theorem mergeSort_of_ordered {rows : List α}
    (hordered : rows.Pairwise fun left right => cmp left right = .lt) :
    (rows.mergeSort fun left right => (cmp left right).isLE) = rows := by
  apply List.mergeSort_of_pairwise
  apply hordered.imp
  intro left right hlt
  simp [hlt]

/-- Rows that no comparison confuses are sorted alike in whatever order they
come. -/
theorem mergeSort_of_perm [Std.TransCmp cmp] {left right : List α}
    (hperm : left.Perm right)
    (hdistinct : ∀ first ∈ right, ∀ second ∈ right, cmp first second = .eq →
      first = second) :
    (left.mergeSort fun left right => (cmp left right).isLE) =
      right.mergeSort fun left right => (cmp left right).isLE := by
  refine List.Perm.eq_of_pairwise ?_ (pairwise_mergeSort_isLE cmp left)
    (pairwise_mergeSort_isLE cmp right)
    ((List.mergeSort_perm _ _).trans
      (hperm.trans (List.mergeSort_perm _ _).symm))
  intro first second hfirst hsecond hle hge
  rw [List.mem_mergeSort] at hfirst hsecond
  exact hdistinct first (hperm.subset hfirst) second hsecond
    (Std.OrientedCmp.isLE_antisymm hle hge)

/-- Rows may be left out before a sort or after it. -/
theorem filter_mergeSort [Std.TransCmp cmp] {rows : List α} (keep : α → Bool)
    (hdistinct : ∀ first ∈ rows, ∀ second ∈ rows, cmp first second = .eq →
      first = second) :
    (rows.mergeSort fun left right => (cmp left right).isLE).filter keep =
      (rows.filter keep).mergeSort fun left right => (cmp left right).isLE := by
  refine List.Perm.eq_of_pairwise ?_
    ((pairwise_mergeSort_isLE cmp rows).sublist List.filter_sublist)
    (pairwise_mergeSort_isLE cmp _)
    (((List.mergeSort_perm _ _).filter keep).trans
      (List.mergeSort_perm _ _).symm)
  intro first second hfirst hsecond hle hge
  rw [List.mem_filter, List.mem_mergeSort] at hfirst
  rw [List.mem_mergeSort, List.mem_filter] at hsecond
  exact hdistinct first hfirst.1 second hsecond.1
    (Std.OrientedCmp.isLE_antisymm hle hge)

omit cmp in
/-- Rows that are related in pairs stay so if both sorts compare them alike. -/
theorem forall₂_mergeSort {β : Type} {related : α → β → Prop}
    {before : α → α → Bool} {after : β → β → Bool} {left : List α}
    {right : List β}
    (hsame : ∀ {first second : α} {one other : β}, related first one →
      related second other → before first second = after one other)
    (hrelated : List.Forall₂ related left right) :
    List.Forall₂ related (left.mergeSort before) (right.mergeSort after) := by
  have hpairs : ∀ pair ∈ left.zip right, related pair.1 pair.2 :=
    fun _ hpair => List.forall₂_zip hrelated hpair
  have hleft :
      ((left.zip right).mergeSort fun first second =>
            before first.1 second.1).map Prod.fst =
        left.mergeSort before := by
    rw [List.map_mergeSort (s := before) fun _ _ _ _ => rfl,
      List.map_fst_zip (Nat.le_of_eq hrelated.length_eq)]
  have hright :
      ((left.zip right).mergeSort fun first second =>
            before first.1 second.1).map Prod.snd =
        right.mergeSort after := by
    rw [List.map_mergeSort (s := after),
      List.map_snd_zip (Nat.le_of_eq hrelated.length_eq.symm)]
    intro first hfirst second hsecond
    exact hsame (hpairs first hfirst) (hpairs second hsecond)
  rw [← hleft, ← hright, List.forall₂_map_left_iff, List.forall₂_map_right_iff,
    List.forall₂_same]
  intro pair hpair
  exact hpairs pair (List.mem_mergeSort.mp hpair)

omit cmp in
/-- In a list whose order respects a choice of rows, the chosen rows come
first. -/
theorem filter_append_filter_of_pairwise {before : α → α → Prop}
    {keep : α → Bool} {rows : List α} (hordered : rows.Pairwise before)
    (hrespects : ∀ left ∈ rows, ∀ right ∈ rows, before left right → keep right →
      keep left) :
    rows.filter keep ++ rows.filter (fun row => !keep row) = rows := by
  induction rows with
  | nil => rfl
  | cons row rest ih =>
    rw [List.pairwise_cons] at hordered
    have hrest :=
      ih hordered.2 fun left hleft right hright =>
        hrespects left (List.mem_cons_of_mem row hleft) right
          (List.mem_cons_of_mem row hright)
    cases hrow : keep row with
    | true => simpa [hrow] using hrest
    | false =>
      have hnone : rest.filter keep = [] := by
        rw [List.filter_eq_nil_iff]
        intro other hother hkept
        have hchosen : keep row := hrespects row List.mem_cons_self other
          (List.mem_cons_of_mem row hother) (hordered.1 other hother) hkept
        rw [hrow] at hchosen
        cases hchosen
      rw [hnone, List.nil_append] at hrest
      simp [hrow, hnone, hrest]

section Keys

variable {κ : Type} [Ord κ] [Std.TransOrd κ] [Std.LawfulEqOrd κ] {key : α → κ}

theorem mergeSort_key_ordered {rows : List α}
    (hdistinct : (rows.map key).Nodup) :
    (rows.mergeSort fun left right =>
        (compare (key left) (key right)).isLE).Pairwise fun left right =>
      compare (key left) (key right) = .lt := by
  have hsorted := pairwise_mergeSort_isLE (compareOn key) rows
  have hperm :=
    List.mergeSort_perm rows fun left right => (compareOn key left right).isLE
  have hdistinct' := (hperm.map key).nodup_iff.mpr hdistinct
  rw [List.Nodup, List.pairwise_map] at hdistinct'
  apply (hsorted.and hdistinct').imp
  rintro left right ⟨hle, hne⟩
  cases horder : compare (key left) (key right) with
  | lt => rfl
  | eq => exact absurd (Std.LawfulEqCmp.eq_of_compare horder) hne
  | gt => simp [compareOn, horder] at hle

/-- Rows with distinct keys are sorted alike in whatever order they come. -/
theorem mergeSort_key_of_perm {left right : List α}
    (hdistinct : (right.map key).Nodup) (hperm : left.Perm right) :
    (left.mergeSort fun left right => (compare (key left) (key right)).isLE) =
      right.mergeSort fun left right =>
        (compare (key left) (key right)).isLE := by
  have hdistinct' : (left.map key).Nodup :=
    (hperm.map key).nodup_iff.mpr hdistinct
  apply OrderedMap.eq_of_ordered_of_mem_iff (mergeSort_key_ordered hdistinct')
    (mergeSort_key_ordered hdistinct)
  intro row
  rw [List.mem_mergeSort, List.mem_mergeSort, hperm.mem_iff]

end Keys

end ClusterTick
