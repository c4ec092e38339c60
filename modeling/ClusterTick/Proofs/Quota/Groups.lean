import ClusterTick.Proofs.Order.OrderedMap
import ClusterTick.Quota.Table

/-!
# The groups of a quota table

The slots of a table stand in the order of their groups, so the slots of one
group stand together, those with and those without a ceiling.  A walk that
remembers the group it has listed last therefore lists each group once, in
strict order.
-/

namespace ClusterTick.QuotaTable

section Walk

variable {last : Option GroupName} {entries : List (QuotaSlot × UInt32)}

/-- A group that is listed has an entry with a positive ceiling. -/
theorem exists_of_mem_groupsAfter {group : GroupName}
    (hmem : group ∈ groupsAfter last entries) :
    ∃ entry ∈ entries, entry.1.group = group ∧ 0 < entry.2 := by
  induction entries generalizing last with
  | nil => cases hmem
  | cons entry rest ih =>
    rw [groupsAfter] at hmem
    split at hmem
    case isTrue =>
      obtain ⟨later, hlater, hentry⟩ := ih hmem
      exact ⟨later, List.mem_cons_of_mem _ hlater, hentry⟩
    case isFalse hlisted =>
      rcases List.mem_cons.mp hmem with rfl | hrest
      · have hpos : 0 < entry.2 :=
          UInt32.pos_iff_ne_zero.mpr fun hzero => hlisted (Or.inl hzero)
        exact ⟨entry, List.mem_cons_self, rfl, hpos⟩
      · obtain ⟨later, hlater, hentry⟩ := ih hrest
        exact ⟨later, List.mem_cons_of_mem _ hlater, hentry⟩

/-- The group of an entry with a positive ceiling is listed, or it was
already. -/
theorem mem_groupsAfter {entry : QuotaSlot × UInt32} (hmem : entry ∈ entries)
    (hpos : 0 < entry.2) :
    entry.1.group ∈ groupsAfter last entries ∨ last = some entry.1.group := by
  induction entries generalizing last with
  | nil => cases hmem
  | cons head rest ih =>
    rw [groupsAfter]
    split
    case isTrue hskipped =>
      rcases List.mem_cons.mp hmem with rfl | hrest
      · exact Or.inr (hskipped.resolve_left (UInt32.pos_iff_ne_zero.mp hpos))
      · exact ih hrest
    case isFalse =>
      left
      rcases List.mem_cons.mp hmem with rfl | hrest
      · exact List.mem_cons_self
      · rcases ih hrest with hlater | hsame
        · exact List.mem_cons_of_mem _ hlater
        · rw [← Option.some.inj hsame]
          exact List.mem_cons_self

/-- What is listed comes strictly after the group that was listed last, if no
entry comes before it. -/
theorem lt_of_mem_groupsAfter {group later : GroupName}
    (hordered : (entries.map fun entry => entry.1.group).Pairwise
      fun left right => (compare left right).isLE)
    (hbound : ∀ entry ∈ entries, (compare group entry.1.group).isLE)
    (hlater : later ∈ groupsAfter (some group) entries) :
    compare group later = .lt := by
  induction entries generalizing group with
  | nil => cases hlater
  | cons entry rest ih =>
    rw [List.map_cons, List.pairwise_cons] at hordered
    rw [groupsAfter] at hlater
    split at hlater
    case isTrue =>
      exact ih hordered.2
        (fun other hother => hbound other (List.mem_cons_of_mem _ hother))
        hlater
    case isFalse hlisted =>
      have hentry : compare group entry.1.group = .lt := by
        cases horder : compare group entry.1.group with
        | lt => rfl
        | eq =>
          have hsame := Std.LawfulEqOrd.eq_of_compare horder
          exact absurd (Or.inr (congrArg some hsame)) hlisted
        | gt =>
          have hle := hbound entry List.mem_cons_self
          rw [horder] at hle
          cases hle
      rcases List.mem_cons.mp hlater with rfl | hrest
      · exact hentry
      · refine Std.TransCmp.lt_trans hentry (ih hordered.2 ?_ hrest)
        intro other hother
        exact hordered.1 _ (List.mem_map_of_mem hother)

/-- Where the entries stand in the order of their groups, so do the groups. -/
theorem ordered_groupsAfter
    (hordered : (entries.map fun entry =>
        entry.1.group).Pairwise fun left right =>
      (compare left right).isLE) :
    (groupsAfter last entries).Pairwise fun left right =>
      compare left right = .lt := by
  induction entries generalizing last with
  | nil => exact List.Pairwise.nil
  | cons entry rest ih =>
    rw [List.map_cons, List.pairwise_cons] at hordered
    rw [groupsAfter]
    split
    · exact ih hordered.2
    · refine List.pairwise_cons.mpr ⟨fun later hlater => ?_, ih hordered.2⟩
      refine lt_of_mem_groupsAfter hordered.2 ?_ hlater
      intro other hother
      exact hordered.1 _ (List.mem_map_of_mem hother)

end Walk

variable (table : QuotaTable)

/-- The slots of a table are in the order of their groups. -/
theorem groups_entries_ordered :
    (table.ceilings.entries.map fun entry => entry.1.group).Pairwise
      fun left right => (compare left right).isLE := by
  rw [List.pairwise_map]
  refine table.ceilings.ordered.imp ?_
  intro left right hlt
  have hslots : ((compare left.1.group right.1.group).then
      (compare left.1.tier right.1.tier)).isLE := by
    have hslots : (compare left.1.group right.1.group).then
      (compare left.1.tier right.1.tier) = .lt := hlt
    rw [hslots]
    rfl
  exact (Ordering.isLE_then_iff_and.mp hslots).1

/-- A group is held if some tier of it has a positive ceiling. -/
theorem holdsQuotaIn_iff {group : GroupName} :
    table.holdsQuotaIn group ↔ ∃ tier, 0 < table.ceiling group tier := by
  simp only [holdsQuotaIn, List.any_eq_true, decide_eq_true_eq]
  constructor
  · rintro ⟨⟨slot, ceiling⟩, hmem, rfl, hpos⟩
    refine ⟨slot.tier, ?_⟩
    rw [QuotaTable.ceiling, OrderedMap.get?_eq_some_iff.mpr hmem]
    exact hpos
  · rintro ⟨tier, hpos⟩
    cases hceiling : table.ceilings.get? ⟨group, tier⟩ with
    | none =>
      rw [QuotaTable.ceiling, hceiling] at hpos
      exact absurd hpos (by decide)
    | some ceiling =>
      rw [QuotaTable.ceiling, hceiling] at hpos
      exact ⟨_, OrderedMap.get?_eq_some_iff.mp hceiling, rfl, hpos⟩

/-- The groups that are listed are those that are held. -/
theorem mem_groups_iff {group : GroupName} :
    group ∈ table.groups ↔ table.holdsQuotaIn group := by
  simp only [groups, holdsQuotaIn, List.any_eq_true, decide_eq_true_eq]
  constructor
  · exact exists_of_mem_groupsAfter
  · rintro ⟨entry, hmem, rfl, hpos⟩
    exact (mem_groupsAfter hmem hpos).resolve_right nofun

/-- They are listed in strict order, whichever tiers of them have no ceiling. -/
theorem groups_ordered :
    table.groups.Pairwise fun left right => compare left right = .lt :=
  ordered_groupsAfter table.groups_entries_ordered

theorem nodup_groups : table.groups.Nodup := by
  refine table.groups_ordered.imp ?_
  rintro group _ hlt rfl
  rw [Std.ReflOrd.compare_self] at hlt
  cases hlt

end ClusterTick.QuotaTable
