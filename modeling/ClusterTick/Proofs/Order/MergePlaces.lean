import ClusterTick.Model.Node
import ClusterTick.Proofs.Order.Merge

/-!
# Where the rows stand that a merge keeps

A merge goes by places, not by values: it keeps the rows at certain places of a
list in the order of the list.  For `keepFirst` these are the places with no row
of the same key before them, for `keepLast` those with none behind them.  Of two
lists without repeated keys that are joined, the second one decides on its keys.
-/

namespace ClusterTick

variable {α κ : Type} [DecidableEq κ]

/-- No row before the place has the key of the row that stands there. -/
def IsFirstOfKey (key : α → κ) (rows : List α) (entry : α × Nat) : Prop :=
  ∀ earlier ∈ rows.take entry.2, key earlier ≠ key entry.1

/-- No row behind the place has the key of the row that stands there. -/
def IsLastOfKey (key : α → κ) (rows : List α) (entry : α × Nat) : Prop :=
  ∀ later ∈ rows.drop (entry.2 + 1), key later ≠ key entry.1

instance (key : α → κ) (rows : List α) :
    DecidablePred (IsFirstOfKey key rows) :=
  fun entry =>
    inferInstanceAs (Decidable
      (∀ earlier ∈ rows.take entry.2, key earlier ≠ key entry.1))

instance (key : α → κ) (rows : List α) : DecidablePred (IsLastOfKey key rows) :=
  fun entry =>
    inferInstanceAs (Decidable
      (∀ later ∈ rows.drop (entry.2 + 1), key later ≠ key entry.1))

/-- What is left of a list when one row is kept for each key, at the chosen
places. -/
structure Merged.KeepsOne (merged : Merged α) (key : α → κ) (rows : List α)
    (chosen : α × Nat → Prop) [DecidablePred chosen] : Prop where
  items :
    merged.items = (rows.zipIdx.filter fun entry => chosen entry).map Prod.fst
  sublist : merged.items.Sublist rows
  distinct : (merged.items.map key).Nodup
  covers : ∀ wanted, wanted ∈ merged.items.map key ↔ wanted ∈ rows.map key
  /-- The dropped rows are those at the other places. -/
  duplicates :
    merged.duplicates = (rows.zipIdx.filter fun entry => ¬ chosen entry).length
  length : merged.items.length + merged.duplicates = rows.length

section First

variable {key : α → κ}

/-- A row is kept if its key is neither seen already nor found before its
place. -/
theorem items_scanUnseen_eq_filter_zipIdx (earlier : List α) {seen : List κ}
    {rows : List α}
    (hseen : ∀ wanted, wanted ∈ seen ↔ wanted ∈ earlier.map key) :
    (scanUnseen key seen rows).items =
      ((rows.zipIdx earlier.length).filter fun entry =>
          IsFirstOfKey key (earlier ++ rows) entry).map Prod.fst := by
  induction rows generalizing earlier seen with
  | nil => rfl
  | cons row rest ih =>
    have hfirst :
        IsFirstOfKey key (earlier ++ row :: rest) (row, earlier.length) ↔
          key row ∉ seen := by
      simp [IsFirstOfKey, hseen]
    have hrest : earlier ++ row :: rest = earlier ++ [row] ++ rest :=
      List.append_cons ..
    have hplace : earlier.length + 1 = (earlier ++ [row]).length := by simp
    rw [List.zipIdx_cons, items_scanUnseen_cons]
    split
    case isTrue hold =>
      rw [List.filter_cons_of_neg (by simpa [hfirst] using hold), hrest, hplace]
      refine ih (earlier ++ [row]) fun wanted => ?_
      rw [hseen, List.map_append, List.mem_append, List.map_singleton,
        List.mem_singleton]
      refine ⟨Or.inl, fun h => h.elim id ?_⟩
      rintro rfl
      exact (hseen _).mp hold
    case isFalse hnew =>
      rw [List.filter_cons_of_pos (by simpa [hfirst] using hnew), List.map_cons,
        hrest, hplace]
      refine congrArg (row :: ·) (ih (earlier ++ [row]) fun wanted => ?_)
      rw [List.mem_cons, hseen, List.map_append, List.mem_append,
        List.map_singleton, List.mem_singleton, or_comm]

theorem items_keepFirst (rows : List α) :
    (keepFirst rows key).items =
      (rows.zipIdx.filter fun entry => IsFirstOfKey key rows entry).map
        Prod.fst :=
  items_scanUnseen_eq_filter_zipIdx [] fun _ => Iff.rfl

end First

section Last

variable {key : α → κ}

/-- A row at the end is kept if its key has not come before. -/
theorem items_scanUnseen_concat (seen : List κ) (rows : List α) (row : α) :
    (scanUnseen key seen (rows ++ [row])).items =
      (scanUnseen key seen rows).items ++
        if key row ∈ seen ∨ key row ∈ rows.map key then [] else [row] := by
  induction rows generalizing seen with
  | nil =>
    rw [List.nil_append, items_scanUnseen_cons]
    simp [scanUnseen]
  | cons head rest ih =>
    simp only [List.cons_append, items_scanUnseen_cons, ih]
    split
    case isTrue hseen =>
      have hcondition : key row ∈ seen ∨ key row ∈ (head :: rest).map key ↔
          key row ∈ seen ∨ key row ∈ rest.map key := by
        rw [List.map_cons, List.mem_cons]
        refine ⟨fun h =>
            h.elim Or.inl fun h =>
              h.elim (fun hhead => Or.inl (hhead ▸ hseen)) Or.inr,
          fun h => h.imp_right Or.inr⟩
      simp only [hcondition]
    case isFalse hnew =>
      have hcondition : key row ∈ key head :: seen ∨ key row ∈ rest.map key ↔
          key row ∈ seen ∨ key row ∈ (head :: rest).map key := by
        rw [List.map_cons, List.mem_cons, List.mem_cons, or_left_comm, or_assoc]
      simp only [hcondition, List.cons_append]

private theorem keepLast_cons (row : α) (rest : List α) :
    (keepLast (row :: rest) key).items =
      (if key row ∈ rest.map key then [] else [row]) ++
        (keepLast rest key).items := by
  simp only [keepLast, keepFirst, List.reverse_cons, items_scanUnseen_concat,
    List.reverse_append, List.map_reverse, List.mem_reverse, List.not_mem_nil,
    false_or]
  split <;> rfl

private theorem items_keepLast_append (earlier rows : List α) :
    (keepLast rows key).items =
      ((rows.zipIdx earlier.length).filter fun entry =>
          IsLastOfKey key (earlier ++ rows) entry).map Prod.fst := by
  induction rows generalizing earlier with
  | nil => rfl
  | cons row rest ih =>
    have hlast :
        IsLastOfKey key (earlier ++ row :: rest) (row, earlier.length) ↔
          key row ∉ rest.map key := by
      simp [IsLastOfKey, List.drop_length_add_append, eq_comm]
    have hrest : earlier ++ row :: rest = earlier ++ [row] ++ rest :=
      List.append_cons ..
    have hplace : earlier.length + 1 = (earlier ++ [row]).length := by simp
    rw [keepLast_cons, List.zipIdx_cons]
    split
    case isTrue hlater =>
      rw [List.filter_cons_of_neg (by simpa [hlast] using hlater), hrest,
        hplace]
      exact ih (earlier ++ [row])
    case isFalse hunique =>
      rw [List.filter_cons_of_pos (by simpa [hlast] using hunique),
        List.map_cons, hrest, hplace]
      exact congrArg (row :: ·) (ih (earlier ++ [row]))

theorem items_keepLast (rows : List α) : (keepLast rows key).items =
    (rows.zipIdx.filter fun entry => IsLastOfKey key rows entry).map Prod.fst :=
  items_keepLast_append [] rows

end Last

section Both

variable {key : α → κ}

omit [DecidableEq κ] in
/-- The rows that a merge drops stand at the places where it keeps none. -/
theorem Merged.duplicates_eq {merged : Merged α} {rows : List α}
    {chosen : α × Nat → Prop} [DecidablePred chosen]
    (hitems : merged.items =
      (rows.zipIdx.filter fun entry => chosen entry).map Prod.fst)
    (hlength : merged.items.length + merged.duplicates = rows.length) :
    merged.duplicates =
      (rows.zipIdx.filter fun entry => ¬ chosen entry).length := by
  have hsplit :=
    List.length_eq_length_filter_add (l := rows.zipIdx) fun entry =>
      chosen entry
  rw [hitems, List.length_map] at hlength
  rw [List.length_zipIdx] at hsplit
  simp only [decide_not]
  omega

theorem length_keepFirst (rows : List α) :
    (keepFirst rows key).items.length + (keepFirst rows key).duplicates =
      rows.length :=
  length_scanUnseen [] rows

theorem keepsOne_keepFirst (rows : List α) :
    (keepFirst rows key).KeepsOne key rows (IsFirstOfKey key rows) where
  items := items_keepFirst rows
  sublist := items_scanUnseen_sublist [] rows
  distinct := nodup_map_keepFirst rows
  covers _ := mem_map_keepFirst_iff
  duplicates :=
    Merged.duplicates_eq (items_keepFirst rows) (length_keepFirst rows)
  length := length_keepFirst rows

theorem length_keepLast (rows : List α) :
    (keepLast rows key).items.length + (keepLast rows key).duplicates =
      rows.length := by
  have hreversed : (keepFirst rows.reverse key).items.length +
      (keepFirst rows.reverse key).duplicates = rows.reverse.length :=
    length_keepFirst rows.reverse
  rw [List.length_reverse] at hreversed
  rwa [keepLast, List.length_reverse]

theorem keepsOne_keepLast (rows : List α) :
    (keepLast rows key).KeepsOne key rows (IsLastOfKey key rows) where
  items := items_keepLast rows
  sublist := by
    rw [keepLast, ← List.reverse_sublist, List.reverse_reverse]
    exact items_scanUnseen_sublist [] rows.reverse
  distinct := nodup_map_keepLast rows
  covers wanted := by
    rw [keepLast, List.map_reverse, List.mem_reverse, mem_map_keepFirst_iff,
      List.map_reverse, List.mem_reverse]
  duplicates :=
    Merged.duplicates_eq (items_keepLast rows) (length_keepLast rows)
  length := length_keepLast rows

/-- Of two joined lists the second one decides on its keys. -/
theorem find?_keepLast_append {earlier later : List α}
    (hearlier : (earlier.map key).Nodup) (hlater : (later.map key).Nodup)
    (wanted : κ) :
    (keepLast (earlier ++ later) key).items.find?
        (fun row => key row = wanted) =
      (later.find? fun row => key row = wanted).or
        (earlier.find? fun row => key row = wanted) := by
  apply Option.ext
  intro row
  rw [find?_key_eq_some_iff (nodup_map_keepLast _),
    mem_keepLast_append_iff hearlier hlater, Option.or_eq_some_iff,
    find?_key_eq_some_iff hlater, find?_key_eq_some_iff hearlier,
    List.find?_eq_none]
  simp only [List.mem_map, not_exists, not_and, decide_eq_true_eq]
  constructor
  · rintro ⟨hmem | ⟨hmem, hnone⟩, rfl⟩
    · exact Or.inl ⟨hmem, rfl⟩
    · exact Or.inr ⟨hnone, hmem, rfl⟩
  · rintro (⟨hmem, rfl⟩ | ⟨hnone, hmem, rfl⟩)
    · exact ⟨Or.inl hmem, rfl⟩
    · exact ⟨Or.inr ⟨hmem, hnone⟩, rfl⟩

/-- A merge keeps one row for each key, the first or the last one, and leaves it
where it stands.  Of two lists without repeated keys, the second one overrides
the first. -/
theorem keepsOne_of_merge (key : α → κ) (rows : List α) :
    (keepFirst rows key).KeepsOne key rows (IsFirstOfKey key rows) ∧
      (keepLast rows key).KeepsOne key rows (IsLastOfKey key rows) ∧
      ∀ earlier later : List α, (earlier.map key).Nodup →
        (later.map key).Nodup → ∀ wanted,
        (keepLast (earlier ++ later) key).items.find?
            (fun row => key row = wanted) =
          (later.find? fun row => key row = wanted).or
            (earlier.find? fun row => key row = wanted) :=
  ⟨keepsOne_keepFirst rows, keepsOne_keepLast rows,
    fun _ _ => find?_keepLast_append⟩

end Both

/-- Three nodes as a snapshot has them. -/
def reportedFrame : List Node :=
  [{ name := ⟨"n1"⟩ }, { name := ⟨"n2"⟩ }, { name := ⟨"n3"⟩ }]

/-- The rows of two of them after a pass. -/
def passedFrame : List Node :=
  [{ name := ⟨"n3"⟩, working := some ⟨7⟩ },
    { name := ⟨"n1"⟩, working := some ⟨7⟩ }]

/-- The rows after the pass come last, so they are kept, and the second node is
as it was. -/
theorem keepsOne_of_merge_reportedFrame :
    (reportedFrame.map Node.name).Nodup ∧ (passedFrame.map Node.name).Nodup ∧
      (keepLast (reportedFrame ++ passedFrame) Node.name).items.map
          (fun node => (node.name.text, node.working)) =
        [("n2", none), ("n3", some ⟨7⟩), ("n1", some ⟨7⟩)] ∧
      ∀ wanted, (keepLast (reportedFrame ++ passedFrame) Node.name).items.find?
          (fun node => node.name = wanted) =
        (passedFrame.find? fun node => node.name = wanted).or
          (reportedFrame.find? fun node => node.name = wanted) :=
  ⟨by decide, by decide, by decide,
    (keepsOne_of_merge Node.name []).2.2 _ _ (by decide) (by decide)⟩

end ClusterTick
