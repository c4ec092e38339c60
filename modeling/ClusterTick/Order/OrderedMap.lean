/-!
# Maps in key order

A finite map as the list of its entries in strictly increasing key order.  The
order is part of the type, so a map has one representation: two maps are equal
as soon as they answer every lookup alike.
-/

namespace ClusterTick

/-- A finite map whose entries stand in strictly increasing key order. -/
structure OrderedMap (κ : Type) (α : Type) [Ord κ] where
  entries : List (κ × α)
  ordered : entries.Pairwise fun left right => compare left.1 right.1 = .lt
  deriving Repr

namespace OrderedMap

variable {κ α : Type} [Ord κ]

/-- Entries with one more key, whose earlier value is replaced. -/
def insertEntry (key : κ) (value : α) : List (κ × α) → List (κ × α)
  | [] => [(key, value)]
  | (other, kept) :: rest =>
    match compare key other with
    | .lt => (key, value) :: (other, kept) :: rest
    | .eq => (key, value) :: rest
    | .gt => (other, kept) :: insertEntry key value rest

/-- The value of a key in a list of entries. -/
def findEntry [DecidableEq κ] (key : κ) : List (κ × α) → Option α
  | [] => none
  | (other, value) :: rest =>
    if key = other then some value else findEntry key rest

private theorem fst_mem_insertEntry {key : κ} {value : α}
    {entries : List (κ × α)} {entry : κ × α}
    (h : entry ∈ insertEntry key value entries) :
    entry.1 = key ∨ entry ∈ entries := by
  induction entries with
  | nil => simp_all [insertEntry]
  | cons head rest ih =>
    simp only [insertEntry] at h
    split at h
    · simp_all only [List.mem_cons]; grind
    · simp_all only [List.mem_cons]; grind
    · simp_all only [List.mem_cons]; grind

theorem ordered_insertEntry [Std.TransOrd κ] [Std.LawfulEqOrd κ] (key : κ)
    (value : α) {entries : List (κ × α)}
    (h : entries.Pairwise fun left right => compare left.1 right.1 = .lt) :
    (insertEntry key value entries).Pairwise fun left right =>
      compare left.1 right.1 = .lt := by
  induction entries with
  | nil => simp [insertEntry]
  | cons head rest ih =>
    obtain ⟨other, kept⟩ := head
    rw [List.pairwise_cons] at h
    simp only [insertEntry]
    split
    case h_1 hlt =>
      refine List.pairwise_cons.mpr ⟨?_, List.pairwise_cons.mpr h⟩
      intro entry hentry
      rcases List.mem_cons.mp hentry with rfl | hentry
      · exact hlt
      · exact Std.TransCmp.lt_trans hlt (h.1 entry hentry)
    case h_2 heq =>
      rw [Std.LawfulEqCmp.eq_of_compare heq]
      exact List.pairwise_cons.mpr h
    case h_3 hgt =>
      refine List.pairwise_cons.mpr ⟨?_, ih h.2⟩
      intro entry hentry
      rcases fst_mem_insertEntry hentry with hkey | hentry
      · show compare other entry.1 = .lt
        rw [hkey]
        exact Std.OrientedCmp.gt_iff_lt.mp hgt
      · exact h.1 entry hentry

/-- A lookup after an insertion finds the new value at its key and the old
values elsewhere. -/
theorem findEntry_insertEntry [DecidableEq κ] [Std.TransOrd κ]
    [Std.LawfulEqOrd κ] (key other : κ) (value : α) (entries : List (κ × α)) :
    findEntry other (insertEntry key value entries) =
      if other = key then some value else findEntry other entries := by
  induction entries with
  | nil => simp [insertEntry, findEntry]
  | cons head rest ih =>
    obtain ⟨present, kept⟩ := head
    simp only [insertEntry]
    split
    case h_1 hlt => simp [findEntry]
    case h_2 heq =>
      have hkey := Std.LawfulEqCmp.eq_of_compare heq
      subst hkey
      simp only [findEntry]
      split <;> simp_all
    case h_3 hgt =>
      have hne : present ≠ key := by
        rintro rfl
        have hself : compare present present = .eq := Std.ReflCmp.compare_self
        rw [hself] at hgt
        cases hgt
      simp only [findEntry, ih]
      by_cases hother : other = present
      · simp [hother, hne]
      · simp [hother]

def keys (map : OrderedMap κ α) : List κ := map.entries.map (·.1)

def values (map : OrderedMap κ α) : List α := map.entries.map (·.2)

def size (map : OrderedMap κ α) : Nat := map.entries.length

def isEmpty (map : OrderedMap κ α) : Bool := map.entries.isEmpty

def empty : OrderedMap κ α := ⟨[], List.Pairwise.nil⟩

instance : Inhabited (OrderedMap κ α) := ⟨empty⟩

variable [DecidableEq κ]

instance [DecidableEq α] : DecidableEq (OrderedMap κ α) := fun left right =>
  if h : left.entries = right.entries then
    isTrue (by cases left; cases right; cases h; rfl)
  else
    isFalse fun heq => h (congrArg entries heq)

def get? (map : OrderedMap κ α) (key : κ) : Option α :=
  findEntry key map.entries

def contains (map : OrderedMap κ α) (key : κ) : Bool := (map.get? key).isSome

@[simp]
theorem get?_empty (key : κ) : (empty : OrderedMap κ α).get? key = none := rfl

variable [Std.TransOrd κ] [Std.LawfulEqOrd κ]

/-- The map with one more key, whose earlier value is replaced. -/
def insert (map : OrderedMap κ α) (key : κ) (value : α) : OrderedMap κ α :=
  ⟨insertEntry key value map.entries, ordered_insertEntry key value map.ordered⟩

/-- The map with the value of a key combined with an earlier one. -/
def combine (map : OrderedMap κ α) (merge : α → α → α) (key : κ) (value : α) :
    OrderedMap κ α :=
  match map.get? key with
  | some earlier => map.insert key (merge earlier value)
  | none => map.insert key value

/-- A map with every entry of a list added in turn; of a repeated key the last
entry counts. -/
def insertAll (map : OrderedMap κ α) (entries : List (κ × α)) :
    OrderedMap κ α :=
  entries.foldl (fun map entry => map.insert entry.1 entry.2) map

/-- The map of a list of entries; of a repeated key the last entry counts. -/
def ofList (entries : List (κ × α)) : OrderedMap κ α := empty.insertAll entries

/-- The rows of a list in the order of their keys; of several rows with one key
the last one is kept. -/
def lastRows (key : α → κ) (rows : List α) : List α :=
  (ofList (rows.map fun row => (key row, row))).values

theorem get?_insert (map : OrderedMap κ α) (key other : κ) (value : α) :
    (map.insert key value).get? other =
      if other = key then some value else map.get? other :=
  findEntry_insertEntry key other value map.entries

end OrderedMap

/-- Keys in increasing order, each once. -/
def sortedKeys {κ : Type} [Ord κ] [DecidableEq κ] [Std.TransOrd κ]
    [Std.LawfulEqOrd κ] (keys : List κ) : List κ :=
  (OrderedMap.ofList (keys.map fun key => (key, ()))).keys

end ClusterTick
