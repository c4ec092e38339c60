import ClusterTick.Order.Merge
import Mathlib.Data.List.Nodup

/-!
# Rows with distinct keys

A merge leaves one row per key.  Which row that is can be said with a search:
the first row of its key for `keepFirst`, the last one for `keepLast`.  Where
the keys were distinct before, a merge changes nothing.
-/

namespace ClusterTick

variable {α κ : Type} [DecidableEq κ] {key : α → κ}

omit [DecidableEq κ] in
/-- A search for what one row at most is finds that row. -/
theorem find?_eq_some_iff_of_unique {items : List α} {wanted : α → Bool}
    (hunique : ∀ first ∈ items, ∀ second ∈ items, wanted first → wanted second →
      first = second)
    {item : α} :
    items.find? wanted = some item ↔ item ∈ items ∧ wanted item := by
  constructor
  · intro hfound
    exact ⟨List.mem_of_find?_eq_some hfound, List.find?_some hfound⟩
  · rintro ⟨hmem, hwanted⟩
    cases hfound : items.find? wanted with
    | none => exact absurd hwanted (List.find?_eq_none.mp hfound item hmem)
    | some other =>
      rw [hunique other (List.mem_of_find?_eq_some hfound) item hmem
        (List.find?_some hfound) hwanted]

/-- Among rows with distinct keys, a search by key finds the row that has it. -/
theorem find?_key_eq_some_iff {items : List α}
    (hdistinct : (items.map key).Nodup) {wanted : κ} {item : α} :
    items.find? (fun row => key row = wanted) = some item ↔
      item ∈ items ∧ key item = wanted := by
  rw [find?_eq_some_iff_of_unique, decide_eq_true_eq]
  intro first hfirst second hsecond hleft hright
  rw [decide_eq_true_eq] at hleft hright
  exact List.inj_on_of_nodup_map hdistinct hfirst hsecond
    (hleft.trans hright.symm)

omit [DecidableEq κ] in
theorem find?_of_perm {left right : List α} {wanted : α → Bool}
    (hperm : left.Perm right)
    (hunique : ∀ first ∈ right, ∀ second ∈ right, wanted first → wanted second →
      first = second) :
    left.find? wanted = right.find? wanted := by
  apply Option.ext
  intro item
  rw [find?_eq_some_iff_of_unique hunique, find?_eq_some_iff_of_unique,
    hperm.mem_iff]
  intro first hfirst second hsecond
  exact hunique first (hperm.subset hfirst) second (hperm.subset hsecond)

theorem find?_key_of_perm {left right : List α} (hperm : left.Perm right)
    (hdistinct : (right.map key).Nodup) (wanted : κ) :
    left.find? (fun row => key row = wanted) =
      right.find? fun row => key row = wanted := by
  apply find?_of_perm hperm
  intro first hfirst second hsecond hleft hright
  rw [decide_eq_true_eq] at hleft hright
  exact List.inj_on_of_nodup_map hdistinct hfirst hsecond
    (hleft.trans hright.symm)

/-! ## The scan -/

theorem items_scanUnseen_cons (seen : List κ) (item : α) (rest : List α) :
    (scanUnseen key seen (item :: rest)).items =
      if key item ∈ seen then (scanUnseen key seen rest).items
      else item :: (scanUnseen key (key item :: seen) rest).items := by
  rw [scanUnseen]
  split
  · rfl
  · rfl

theorem duplicates_scanUnseen_cons (seen : List κ) (item : α) (rest : List α) :
    (scanUnseen key seen (item :: rest)).duplicates =
      if key item ∈ seen then (scanUnseen key seen rest).duplicates + 1
      else (scanUnseen key (key item :: seen) rest).duplicates := by
  rw [scanUnseen]
  split
  · rfl
  · rfl

/-- Every row is either kept or counted. -/
theorem length_scanUnseen (seen : List κ) (items : List α) :
    (scanUnseen key seen items).items.length +
      (scanUnseen key seen items).duplicates = items.length := by
  induction items generalizing seen with
  | nil => rfl
  | cons item rest ih =>
    rw [items_scanUnseen_cons, duplicates_scanUnseen_cons, List.length_cons]
    split
    · rw [← Nat.add_assoc, ih seen]
    · rw [List.length_cons, Nat.add_right_comm, ih (key item :: seen)]

theorem items_scanUnseen_sublist (seen : List κ) (items : List α) :
    (scanUnseen key seen items).items.Sublist items := by
  induction items generalizing seen with
  | nil => exact List.Sublist.refl _
  | cons item rest ih =>
    rw [items_scanUnseen_cons]
    split
    · exact (ih seen).cons item
    · exact (ih _).cons_cons item

theorem key_not_mem_of_mem_scanUnseen {seen : List κ} {items : List α}
    {item : α} (hmem : item ∈ (scanUnseen key seen items).items) :
    key item ∉ seen := by
  induction items generalizing seen with
  | nil => cases hmem
  | cons head rest ih =>
    rw [items_scanUnseen_cons] at hmem
    split at hmem
    · exact ih hmem
    case isFalse hfresh =>
      rcases List.mem_cons.mp hmem with rfl | hrest
      · exact hfresh
      · exact fun hseen => ih hrest (List.mem_cons_of_mem _ hseen)

theorem nodup_map_scanUnseen (seen : List κ) (items : List α) :
    ((scanUnseen key seen items).items.map key).Nodup := by
  induction items generalizing seen with
  | nil => exact List.nodup_nil
  | cons head rest ih =>
    rw [items_scanUnseen_cons]
    split
    · exact ih seen
    · rw [List.map_cons, List.nodup_cons]
      refine ⟨?_, ih _⟩
      intro hrepeated
      obtain ⟨later, hlater, hkey⟩ := List.mem_map.mp hrepeated
      exact key_not_mem_of_mem_scanUnseen hlater (by simp [hkey])

/-- Rows with distinct keys that have not been seen are all kept. -/
theorem scanUnseen_of_nodup {seen : List κ} {items : List α}
    (hdistinct : (items.map key).Nodup)
    (hfresh : ∀ item ∈ items, key item ∉ seen) :
    scanUnseen key seen items = ⟨items, 0⟩ := by
  induction items generalizing seen with
  | nil => rfl
  | cons head rest ih =>
    rw [List.map_cons, List.nodup_cons] at hdistinct
    rw [scanUnseen, if_neg (hfresh head List.mem_cons_self), ih hdistinct.2]
    · rfl
    intro item hitem hseen
    rcases List.mem_cons.mp hseen with hsame | hseen
    · exact hdistinct.1 (hsame ▸ List.mem_map_of_mem hitem)
    · exact hfresh item (List.mem_cons_of_mem head hitem) hseen

/-- The rows that are kept are the first ones of their keys. -/
theorem mem_scanUnseen_iff {seen : List κ} {items : List α} {item : α} :
    item ∈ (scanUnseen key seen items).items ↔
      key item ∉ seen ∧
        items.find? (fun row => key row = key item) = some item := by
  induction items generalizing seen with
  | nil => simp [scanUnseen]
  | cons head rest ih =>
    rw [items_scanUnseen_cons]
    by_cases hhead : key head = key item
    · have hrest : item ∉ (scanUnseen key (key head :: seen) rest).items :=
        fun hmem => key_not_mem_of_mem_scanUnseen hmem (by simp [hhead])
      simp only [hhead, decide_true, List.find?_cons_of_pos, Option.some.injEq]
      split
      case isTrue hseen =>
        constructor
        · exact fun hmem => absurd hseen (key_not_mem_of_mem_scanUnseen hmem)
        · exact fun h => absurd hseen h.1
      case isFalse hfresh =>
        rw [List.mem_cons]
        constructor
        · rintro (rfl | hmem)
          · exact ⟨hfresh, rfl⟩
          · exact absurd (hhead ▸ hmem) hrest
        · exact fun h => Or.inl h.2.symm
    · rw [List.find?_cons_of_neg (by simpa using hhead)]
      split
      · exact ih
      · rw [List.mem_cons, ih, List.mem_cons]
        have hne : item ≠ head := fun h => hhead (h ▸ rfl)
        simp [hne, Ne.symm hhead]

/-- A change that leaves the keys may come before a scan or after it. -/
theorem scanUnseen_map {change : α → α}
    (hkey : ∀ row, key (change row) = key row) (seen : List κ) (rows : List α) :
    scanUnseen key seen (rows.map change) =
      ⟨(scanUnseen key seen rows).items.map change,
        (scanUnseen key seen rows).duplicates⟩ := by
  induction rows generalizing seen with
  | nil => rfl
  | cons row rest ih =>
    rw [items_scanUnseen_cons, duplicates_scanUnseen_cons, List.map_cons,
      scanUnseen, hkey, ih, ih]
    split
    · rfl
    · rfl

/-- Keys that are left out do not change which rows the other keys keep. -/
theorem scanUnseen_filter {keep : κ → Bool} {seen others : List κ}
    (hsame : ∀ wanted, keep wanted → (wanted ∈ seen ↔ wanted ∈ others))
    (rows : List α) :
    (scanUnseen key seen (rows.filter fun row => keep (key row))).items =
      (scanUnseen key others rows).items.filter fun row => keep (key row) := by
  induction rows generalizing seen others with
  | nil => rfl
  | cons row rest ih =>
    cases hrow : keep (key row) with
    | true =>
      have hkept : ∀ later : List α,
          (row :: later).filter (fun row => keep (key row)) =
            row :: later.filter fun row => keep (key row) :=
        fun _ => List.filter_cons_of_pos hrow
      rw [hkept, items_scanUnseen_cons, items_scanUnseen_cons]
      by_cases hseen : key row ∈ seen
      · rw [if_pos hseen, if_pos ((hsame _ hrow).mp hseen), ih hsame]
      · rw [if_neg hseen,
          if_neg (fun hother => hseen ((hsame _ hrow).mpr hother)), hkept, ih]
        intro wanted hwanted
        rw [List.mem_cons, List.mem_cons, hsame wanted hwanted]
    | false =>
      have hdropped : ∀ later : List α,
          (row :: later).filter (fun row => keep (key row)) =
            later.filter fun row => keep (key row) :=
        fun _ => List.filter_cons_of_neg (by simp [hrow])
      rw [hdropped, items_scanUnseen_cons]
      split
      · exact ih hsame
      · rw [hdropped, ih]
        intro wanted hwanted
        have hne : wanted ≠ key row := by
          rintro rfl
          rw [hrow] at hwanted
          cases hwanted
        rw [List.mem_cons, hsame wanted hwanted, or_iff_right hne]

/-! ## The merges -/

theorem nodup_map_keepFirst (items : List α) :
    ((keepFirst items key).items.map key).Nodup :=
  nodup_map_scanUnseen [] items

theorem mem_keepFirst_iff {items : List α} {item : α} :
    item ∈ (keepFirst items key).items ↔
      items.find? (fun row => key row = key item) = some item := by
  simp [keepFirst, mem_scanUnseen_iff]

theorem mem_of_mem_keepFirst {items : List α} {item : α}
    (hmem : item ∈ (keepFirst items key).items) : item ∈ items :=
  (items_scanUnseen_sublist [] items).subset hmem

/-- A change that leaves the keys may come before a merge or after it. -/
theorem keepFirst_map {change : α → α}
    (hkey : ∀ row, key (change row) = key row) (rows : List α) :
    (keepFirst (rows.map change) key).items =
      (keepFirst rows key).items.map change := by
  rw [keepFirst, scanUnseen_map hkey]
  rfl

theorem duplicates_keepFirst_map {change : α → α}
    (hkey : ∀ row, key (change row) = key row) (rows : List α) :
    (keepFirst (rows.map change) key).duplicates =
      (keepFirst rows key).duplicates := by
  rw [keepFirst, scanUnseen_map hkey]
  rfl

/-- Rows may be left out by their keys before a merge or after it. -/
theorem keepFirst_filter (keep : κ → Bool) (rows : List α) :
    (keepFirst (rows.filter fun row => keep (key row)) key).items =
      (keepFirst rows key).items.filter fun row => keep (key row) :=
  scanUnseen_filter (fun _ _ => Iff.rfl) rows

/-- Every key keeps a row. -/
theorem mem_map_keepFirst_iff {items : List α} {wanted : κ} :
    wanted ∈ (keepFirst items key).items.map key ↔ wanted ∈ items.map key := by
  constructor
  · intro hmem
    obtain ⟨item, hitem, rfl⟩ := List.mem_map.mp hmem
    exact List.mem_map_of_mem (mem_of_mem_keepFirst hitem)
  · intro hmem
    obtain ⟨item, hitem, rfl⟩ := List.mem_map.mp hmem
    cases hfound : items.find? (fun row => key row = key item) with
    | none => simpa using List.find?_eq_none.mp hfound item hitem
    | some first =>
      have hkey : key first = key item := by simpa using List.find?_some hfound
      rw [← hkey] at hfound
      exact List.mem_map.mpr ⟨first, mem_keepFirst_iff.mpr hfound, hkey⟩

/-- A merge of rows with distinct keys drops none of them. -/
theorem keepFirst_of_nodup {items : List α}
    (hdistinct : (items.map key).Nodup) : keepFirst items key = ⟨items, 0⟩ :=
  scanUnseen_of_nodup hdistinct fun _ _ => List.not_mem_nil

theorem nodup_map_keepLast (items : List α) :
    ((keepLast items key).items.map key).Nodup := by
  rw [keepLast, List.map_reverse, List.nodup_reverse]
  exact nodup_map_keepFirst items.reverse

theorem mem_keepLast_iff {items : List α} {item : α} :
    item ∈ (keepLast items key).items ↔
      items.reverse.find? (fun row => key row = key item) = some item := by
  simp [keepLast, mem_keepFirst_iff]

/-- Of two lists without repeated keys, the later one decides on its keys and
the earlier one on the others. -/
theorem mem_keepLast_append_iff {earlier later : List α}
    (hearlier : (earlier.map key).Nodup) (hlater : (later.map key).Nodup)
    {item : α} :
    item ∈ (keepLast (earlier ++ later) key).items ↔
      item ∈ later ∨ item ∈ earlier ∧ key item ∉ later.map key := by
  have hearlier' : (earlier.reverse.map key).Nodup := by
    rwa [List.map_reverse, List.nodup_reverse]
  have hlater' : (later.reverse.map key).Nodup := by
    rwa [List.map_reverse, List.nodup_reverse]
  rw [mem_keepLast_iff, List.reverse_append, List.find?_append,
    Option.or_eq_some_iff, find?_key_eq_some_iff hlater',
    find?_key_eq_some_iff hearlier', List.find?_eq_none]
  simp only [List.mem_reverse, and_true, List.mem_map, not_exists, not_and,
    decide_eq_true_eq]
  exact ⟨fun h => h.imp id And.symm, fun h => h.imp id And.symm⟩

end ClusterTick
