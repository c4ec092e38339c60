import ClusterTick.Order.OrderedMap
import ClusterTick.Proofs.Order.Merge

/-!
# Maps and key lists

What a map made of a list answers: of a repeated key, the last entry.  The rows
of `lastRows` and the keys of `sortedKeys` stand in strictly increasing order,
so rows that stand in that order already are left as they are.
-/

namespace ClusterTick.OrderedMap

variable {κ α : Type} [Ord κ] [DecidableEq κ]

omit [DecidableEq κ] in
theorem nodup_keys [Std.ReflOrd κ] (map : OrderedMap κ α) :
    (map.entries.map (·.1)).Nodup := by
  rw [List.Nodup, List.pairwise_map]
  refine map.ordered.imp ?_
  intro left right hlt heq
  rw [heq, Std.ReflOrd.compare_self] at hlt
  cases hlt

omit [Ord κ] in
theorem findEntry_eq_find? (key : κ) (entries : List (κ × α)) :
    findEntry key entries =
      (entries.find? fun entry => entry.1 = key).map (·.2) := by
  induction entries with
  | nil => rfl
  | cons entry rest ih =>
    by_cases hkey : key = entry.1
    · simp [findEntry, hkey]
    · simp [findEntry, hkey, ih, Ne.symm hkey]

/-- The entries are what the lookups answer. -/
theorem get?_eq_some_iff [Std.ReflOrd κ] {map : OrderedMap κ α} {key : κ}
    {value : α} : map.get? key = some value ↔ (key, value) ∈ map.entries := by
  rw [get?, findEntry_eq_find?, Option.map_eq_some_iff]
  constructor
  · rintro ⟨entry, hfound, rfl⟩
    obtain ⟨hmem, rfl⟩ := (find?_key_eq_some_iff map.nodup_keys).mp hfound
    exact hmem
  · intro hmem
    exact ⟨(key, value), (find?_key_eq_some_iff map.nodup_keys).mpr ⟨hmem, rfl⟩,
      rfl⟩

theorem contains_iff_mem_keys [Std.ReflOrd κ] {map : OrderedMap κ α} {key : κ} :
    map.contains key ↔ key ∈ map.keys := by
  rw [contains, Option.isSome_iff_exists, keys, List.mem_map]
  constructor
  · rintro ⟨value, hvalue⟩
    exact ⟨(key, value), get?_eq_some_iff.mp hvalue, rfl⟩
  · rintro ⟨entry, hentry, rfl⟩
    exact ⟨entry.2, get?_eq_some_iff.mpr hentry⟩

theorem get?_eq_none_iff {map : OrderedMap κ α} {key : κ} :
    map.get? key = none ↔ ∀ entry ∈ map.entries, entry.1 ≠ key := by
  rw [get?, findEntry_eq_find?, Option.map_eq_none_iff, List.find?_eq_none]
  simp

/-- A key has at most one entry, the one that a lookup finds. -/
theorem filter_entries_eq [Std.ReflOrd κ] (map : OrderedMap κ α) (key : κ) :
    (map.entries.filter fun entry => entry.1 = key).map (·.2) =
      (map.get? key).toList := by
  rw [get?, findEntry_eq_find?]
  have hdistinct := map.nodup_keys
  generalize map.entries = entries at hdistinct
  induction entries with
  | nil => rfl
  | cons entry rest ih =>
    rw [List.map_cons, List.nodup_cons] at hdistinct
    by_cases hkey : entry.1 = key
    · have hrest : rest.filter (fun entry => entry.1 = key) = [] := by
        rw [List.filter_eq_nil_iff]
        intro other hother hsame
        rw [decide_eq_true_eq] at hsame
        exact hdistinct.1 (hkey ▸ hsame ▸ List.mem_map_of_mem hother)
      simp [hkey, hrest]
    · simp [hkey, ih hdistinct.2]

variable [Std.TransOrd κ] [Std.LawfulEqOrd κ]

theorem get?_insertAll (map : OrderedMap κ α) (entries : List (κ × α))
    (key : κ) :
    (map.insertAll entries).get? key =
      ((entries.reverse.find? fun entry => entry.1 = key).map (·.2)).or
        (map.get? key) := by
  induction entries generalizing map with
  | nil => simp [insertAll]
  | cons entry rest ih =>
    have hstep : map.insertAll (entry :: rest) =
        (map.insert entry.1 entry.2).insertAll rest :=
      rfl
    rw [hstep, ih, get?_insert, List.reverse_cons, List.find?_append]
    by_cases hkey : entry.1 = key
    · cases rest.reverse.find? fun entry => entry.1 = key <;> simp [hkey]
    · cases rest.reverse.find? fun entry => entry.1 = key <;>
        simp [hkey, Ne.symm hkey]

/-- Of a repeated key the last entry counts. -/
theorem get?_ofList (entries : List (κ × α)) (key : κ) :
    (ofList entries).get? key =
      (entries.reverse.find? fun entry => entry.1 = key).map (·.2) := by
  rw [ofList, get?_insertAll, get?_empty, Option.or_none]

theorem get?_ofList_eq_none_iff {entries : List (κ × α)} {key : κ} :
    (ofList entries).get? key = none ↔ ∀ entry ∈ entries, entry.1 ≠ key := by
  rw [get?_ofList, Option.map_eq_none_iff, List.find?_eq_none]
  simp

/-- A lookup depends on the entries of its key only. -/
theorem get?_ofList_congr {left right : List (κ × α)} {key : κ}
    (hsame : left.filter (fun entry => entry.1 = key) =
      right.filter fun entry => entry.1 = key) :
    (ofList left).get? key = (ofList right).get? key := by
  rw [get?_ofList, get?_ofList, ← List.head?_filter, ← List.head?_filter,
    List.filter_reverse, List.filter_reverse, hsame]

/-- Of entries with distinct keys each is found. -/
theorem get?_ofList_of_nodup {entries : List (κ × α)}
    (hdistinct : (entries.map (·.1)).Nodup) (key : κ) :
    (ofList entries).get? key =
      (entries.find? fun entry => entry.1 = key).map (·.2) := by
  rw [get?_ofList, find?_key_of_perm entries.reverse_perm hdistinct]

/-- Of entries with distinct keys, one that is listed is found. -/
theorem get?_ofList_of_mem {entries : List (κ × α)}
    (hdistinct : (entries.map (·.1)).Nodup) {key : κ} {value : α}
    (hmem : (key, value) ∈ entries) :
    (ofList entries).get? key = some value := by
  have hfound :
      entries.find? (fun entry => entry.1 = key) = some (key, value) :=
    (find?_key_eq_some_iff hdistinct).mpr ⟨hmem, rfl⟩
  rw [get?_ofList_of_nodup hdistinct, hfound]
  rfl

/-- Of rows with distinct keys, each has the value that it is listed with. -/
theorem get?_ofList_filterMap {β : Type} {rows : List β} {key : β → κ}
    (hdistinct : (rows.map key).Nodup) (value? : β → Option α) {row : β}
    (hmem : row ∈ rows) :
    (ofList (rows.filterMap fun row =>
          (value? row).map fun value => (key row, value))).get? (key row) =
      value? row := by
  have hkeys :
      ((rows.filterMap fun row =>
          (value? row).map fun value => (key row, value)).map (·.1)).Nodup := by
    have hrows := hdistinct
    rw [List.Nodup, List.pairwise_map] at hrows ⊢
    refine hrows.filterMap _ ?_
    intro left right hne first hfirst second hsecond
    obtain ⟨_, -, rfl⟩ := Option.map_eq_some_iff.mp hfirst
    obtain ⟨_, -, rfl⟩ := Option.map_eq_some_iff.mp hsecond
    exact hne
  cases hvalue : value? row with
  | some value =>
    exact get?_ofList_of_mem hkeys
      (List.mem_filterMap.mpr ⟨row, hmem, by rw [hvalue]; rfl⟩)
  | none =>
    apply get?_ofList_eq_none_iff.mpr
    intro entry hentry hkey
    obtain ⟨other, hother, hlisted⟩ := List.mem_filterMap.mp hentry
    obtain ⟨_, hsome, rfl⟩ := Option.map_eq_some_iff.mp hlisted
    rw [List.inj_on_of_nodup_map hdistinct hother hmem hkey, hvalue] at hsome
    cases hsome

/-- A combined value is found at its key, and the old values elsewhere. -/
theorem get?_combine (map : OrderedMap κ α) (merge : α → α → α) (key other : κ)
    (value : α) :
    (map.combine merge key value).get? other =
      if other = key then some ((map.get? key).elim value (merge · value))
      else map.get? other := by
  unfold combine
  cases map.get? key <;> exact get?_insert map key other _

/-- The entries of another map count before those that are there. -/
theorem get?_insertAll_entries (map other : OrderedMap κ α) (key : κ) :
    (map.insertAll other.entries).get? key =
      (other.get? key).or (map.get? key) := by
  rw [get?_insertAll,
    find?_key_of_perm other.entries.reverse_perm other.nodup_keys,
    ← findEntry_eq_find?]
  rfl

/-- A change of the values shows in the lookups. -/
theorem get?_ofList_entries_map {β : Type} (map : OrderedMap κ α)
    (change : α → β) (key : κ) :
    (ofList (map.entries.map fun entry => (entry.1, change entry.2))).get? key =
      (map.get? key).map change := by
  have hdistinct : ((map.entries.map fun entry => (entry.1, change entry.2)).map
      (·.1)).Nodup := by
    rw [List.map_map]
    exact map.nodup_keys
  rw [get?_ofList_of_nodup hdistinct, List.find?_map, get?, findEntry_eq_find?]
  simp only [Option.map_map, Function.comp_def]

/-- A key that is removed is not found, and the others are found as before. -/
theorem get?_ofList_entries_remove (map : OrderedMap κ α) (removed key : κ) :
    (ofList (map.entries.filter fun entry => entry.1 ≠ removed)).get? key =
      if key = removed then none else map.get? key := by
  have hdistinct :
      ((map.entries.filter fun entry => entry.1 ≠ removed).map (·.1)).Nodup :=
    map.nodup_keys.sublist (List.filter_sublist.map _)
  rw [get?_ofList_of_nodup hdistinct, List.find?_filter, get?,
    findEntry_eq_find?]
  split
  next hremoved =>
    rw [Option.map_eq_none_iff, List.find?_eq_none]
    simp +contextual [hremoved]
  next hkept =>
    congr 2
    funext entry
    by_cases hkey : entry.1 = key <;> simp [hkey, hkept]

omit [DecidableEq κ] [Std.TransOrd κ] [Std.LawfulEqOrd κ] in
theorem eq_of_entries {left right : OrderedMap κ α}
    (hentries : left.entries = right.entries) : left = right := by
  cases left
  cases right
  congr

section LastRows

variable {β : Type} {key : β → κ} {rows : List β}

theorem mem_entries_ofList_map {entry : κ × β}
    (hmem : entry ∈ (ofList (rows.map fun row => (key row, row))).entries) :
    entry.1 = key entry.2 := by
  have hget := get?_eq_some_iff.mpr hmem
  rw [get?_ofList, Option.map_eq_some_iff] at hget
  obtain ⟨other, hfound, hvalue⟩ := hget
  obtain ⟨row, -, rfl⟩ :=
    List.mem_map.mp (List.mem_reverse.mp (List.mem_of_find?_eq_some hfound))
  have hkey : key row = entry.1 := by simpa using List.find?_some hfound
  rw [← hvalue, hkey]

/-- A row is kept if it is the last one of its key. -/
theorem mem_lastRows_iff {row : β} :
    row ∈ lastRows key rows ↔
      rows.reverse.find? (fun other => key other = key row) = some row := by
  have hget :
      (key row, row) ∈ (ofList (rows.map fun row => (key row, row))).entries ↔
        rows.reverse.find? (fun other => key other = key row) = some row := by
    rw [← get?_eq_some_iff, get?_ofList, ← List.map_reverse, List.find?_map,
      Option.map_map]
    simp [Function.comp_def]
  rw [← hget, lastRows, values, List.mem_map]
  constructor
  · rintro ⟨entry, hmem, rfl⟩
    rw [← mem_entries_ofList_map hmem]
    exact hmem
  · intro hmem
    exact ⟨_, hmem, rfl⟩

theorem mem_of_mem_lastRows {row : β} (hmem : row ∈ lastRows key rows) :
    row ∈ rows :=
  List.mem_reverse.mp (List.mem_of_find?_eq_some (mem_lastRows_iff.mp hmem))

theorem lastRows_ordered :
    (lastRows key rows).Pairwise fun left right =>
      compare (key left) (key right) = .lt := by
  rw [lastRows, values, List.pairwise_map]
  refine (ofList (rows.map fun row => (key row, row))).ordered.imp_of_mem ?_
  intro left right hleft hright hlt
  rwa [mem_entries_ofList_map hleft, mem_entries_ofList_map hright] at hlt

omit [DecidableEq κ] [Std.TransOrd κ] in
theorem nodup_map_of_ordered
    (hordered : rows.Pairwise fun left right =>
      compare (key left) (key right) = .lt) :
    (rows.map key).Nodup := by
  rw [List.Nodup, List.pairwise_map]
  refine hordered.imp ?_
  intro left right hlt heq
  rw [heq, Std.ReflOrd.compare_self] at hlt
  cases hlt

/-- Of rows with distinct keys every one is kept. -/
theorem mem_lastRows_of_nodup (hdistinct : (rows.map key).Nodup) {row : β} :
    row ∈ lastRows key rows ↔ row ∈ rows := by
  have hdistinct' : (rows.reverse.map key).Nodup := by
    rwa [List.map_reverse, List.nodup_reverse]
  rw [mem_lastRows_iff, find?_key_eq_some_iff hdistinct', List.mem_reverse]
  simp

theorem lastRows_perm (hdistinct : (rows.map key).Nodup) :
    (lastRows key rows).Perm rows :=
  (List.perm_ext_iff_of_nodup
    (List.Nodup.of_map key (nodup_map_of_ordered lastRows_ordered))
    (List.Nodup.of_map key hdistinct)).mpr fun _ =>
      mem_lastRows_of_nodup hdistinct

omit [DecidableEq κ] in
theorem eq_of_ordered_of_mem_iff {left right : List β}
    (hleft : left.Pairwise fun left right =>
      compare (key left) (key right) = .lt)
    (hright : right.Pairwise fun left right =>
      compare (key left) (key right) = .lt)
    (hmem : ∀ row, row ∈ left ↔ row ∈ right) : left = right := by
  refine List.Perm.eq_of_pairwise ?_ hleft hright ?_
  · intro first second _ _ hlt hgt
    rw [Std.OrientedCmp.gt_iff_lt.mpr hgt] at hlt
    cases hlt
  · exact (List.perm_ext_iff_of_nodup
        (List.Nodup.of_map key (nodup_map_of_ordered hleft))
        (List.Nodup.of_map key (nodup_map_of_ordered hright))).mpr hmem

/-- Rows with distinct keys are ordered alike in whatever order they come. -/
theorem lastRows_of_perm {left right : List β} (hperm : left.Perm right)
    (hdistinct : (right.map key).Nodup) :
    lastRows key left = lastRows key right := by
  apply eq_of_ordered_of_mem_iff lastRows_ordered lastRows_ordered
  intro row
  rw [mem_lastRows_of_nodup ((hperm.map key).nodup_iff.mpr hdistinct),
    mem_lastRows_of_nodup hdistinct, hperm.mem_iff]

/-- Entries with distinct keys are all kept. -/
theorem mem_entries_ofList {entries : List (κ × α)}
    (hdistinct : (entries.map Prod.fst).Nodup) {entry : κ × α} :
    entry ∈ (ofList entries).entries ↔ entry ∈ entries := by
  have hdistinct' : (entries.reverse.map Prod.fst).Nodup := by
    rwa [List.map_reverse, List.nodup_reverse]
  rw [← get?_eq_some_iff, get?_ofList, Option.map_eq_some_iff]
  constructor
  · rintro ⟨found, hfound, hvalue⟩
    obtain ⟨hlisted, hkey⟩ := (find?_key_eq_some_iff hdistinct').mp hfound
    rw [← Prod.ext hkey hvalue]
    exact List.mem_reverse.mp hlisted
  · intro hlisted
    exact ⟨entry,
      (find?_key_eq_some_iff hdistinct').mpr
        ⟨List.mem_reverse.mpr hlisted, rfl⟩, rfl⟩

/-- Entries with distinct keys make one map in whatever order they come. -/
theorem ofList_of_perm {left right : List (κ × α)} (hperm : left.Perm right)
    (hdistinct : (right.map Prod.fst).Nodup) : ofList left = ofList right := by
  apply eq_of_entries
  apply eq_of_ordered_of_mem_iff (ordered _) (ordered _)
  intro entry
  rw [mem_entries_ofList ((hperm.map Prod.fst).nodup_iff.mpr hdistinct),
    mem_entries_ofList hdistinct, hperm.mem_iff]

/-- Maps that answer every lookup alike are equal. -/
theorem eq_of_get? {left right : OrderedMap κ α}
    (hsame : ∀ key, left.get? key = right.get? key) : left = right := by
  apply eq_of_entries
  apply eq_of_ordered_of_mem_iff left.ordered right.ordered
  intro entry
  rw [← get?_eq_some_iff, ← get?_eq_some_iff, hsame]

/-- A value that is there already stays if it is preferred to later ones. -/
theorem combine_of_get?_eq_some {map : OrderedMap κ α} {key : κ} {first : α}
    (hfirst : map.get? key = some first) (value : α) :
    map.combine (fun first _ => first) key value = map := by
  apply eq_of_get?
  intro other
  rw [get?_combine, hfirst]
  split
  case isTrue hkey => rw [hkey, hfirst]; rfl
  · rfl

/-- The entries of a map make this map again. -/
theorem ofList_entries (map : OrderedMap κ α) : ofList map.entries = map := by
  apply eq_of_entries
  apply eq_of_ordered_of_mem_iff (ordered _) (ordered _)
  exact fun entry => mem_entries_ofList map.nodup_keys

/-- Rows that stand in the order of their keys are left as they are. -/
theorem lastRows_of_ordered
    (hordered : rows.Pairwise fun left right =>
      compare (key left) (key right) = .lt) :
    lastRows key rows = rows :=
  eq_of_ordered_of_mem_iff lastRows_ordered hordered fun _ =>
    mem_lastRows_of_nodup (nodup_map_of_ordered hordered)

/-- A change that leaves the keys may come before or after the choice of
rows. -/
theorem lastRows_map {change : β → β} (hkey : ∀ row, key (change row) = key row)
    (rows : List β) :
    lastRows key (rows.map change) = (lastRows key rows).map change := by
  have hchanged : ((lastRows key rows).map change).Pairwise
      fun left right => compare (key left) (key right) = .lt := by
    simpa only [List.pairwise_map, hkey] using lastRows_ordered
  apply eq_of_ordered_of_mem_iff lastRows_ordered hchanged
  intro row
  rw [mem_lastRows_iff, ← List.map_reverse, List.find?_map,
    Option.map_eq_some_iff, List.mem_map]
  simp only [Function.comp_def, hkey, mem_lastRows_iff]
  constructor
  · rintro ⟨before, hfound, rfl⟩
    rw [hkey] at hfound
    exact ⟨before, hfound, rfl⟩
  · rintro ⟨before, hfound, rfl⟩
    rw [hkey]
    exact ⟨before, hfound, rfl⟩

end LastRows

end ClusterTick.OrderedMap

namespace ClusterTick

variable {κ : Type} [Ord κ] [DecidableEq κ] [Std.TransOrd κ] [Std.LawfulEqOrd κ]

theorem mem_sortedKeys_iff {keys : List κ} {key : κ} :
    key ∈ sortedKeys keys ↔ key ∈ keys := by
  have habsent :
      (∀ entry ∈ (OrderedMap.ofList (keys.map fun key => (key, ()))).entries,
          entry.1 ≠ key) ↔
        ∀ entry ∈ keys.map fun key => (key, ()), entry.1 ≠ key :=
    OrderedMap.get?_eq_none_iff.symm.trans OrderedMap.get?_ofList_eq_none_iff
  rw [sortedKeys, OrderedMap.keys, ← not_iff_not]
  simp only [List.mem_map, not_exists, not_and]
  rw [habsent, List.forall_mem_map]
  exact ⟨fun h hmem => h key hmem rfl, fun h other hmem heq => h (heq ▸ hmem)⟩

theorem sortedKeys_ordered (keys : List κ) :
    (sortedKeys keys).Pairwise fun left right => compare left right = .lt := by
  rw [sortedKeys, OrderedMap.keys, List.pairwise_map]
  exact OrderedMap.ordered _

theorem nodup_sortedKeys (keys : List κ) : (sortedKeys keys).Nodup :=
  OrderedMap.nodup_keys _

end ClusterTick
