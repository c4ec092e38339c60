/-!
# Deduplicating merges

Lists of rows with a key, reduced to one row per key.  `keepFirst` keeps the
first row of each key at its place, `keepLast` the last one.
-/

namespace ClusterTick

/-- The rows that are left and how many were dropped. -/
structure Merged (α : Type) where
  items : List α
  duplicates : Nat
  deriving DecidableEq, Repr

variable {α κ : Type} [DecidableEq κ]

/-- One row more is left, at the front. -/
def Merged.keep (item : α) (merged : Merged α) : Merged α :=
  { merged with items := item :: merged.items }

/-- One row more was dropped. -/
def Merged.drop (merged : Merged α) : Merged α :=
  { merged with duplicates := merged.duplicates + 1 }

/-- Goes through rows with the keys that have been seen.  A row of a new key is
kept, and any other row is counted as a duplicate. -/
def scanUnseen (key : α → κ) : List κ → List α → Merged α
  | _, [] => ⟨[], 0⟩
  | seen, item :: rest =>
    if key item ∈ seen then (scanUnseen key seen rest).drop
    else (scanUnseen key (key item :: seen) rest).keep item

/-- One row per key, the first one, at its place. -/
def keepFirst (items : List α) (key : α → κ) : Merged α :=
  scanUnseen key [] items

/-- One row per key, the last one, at its place. -/
def keepLast (items : List α) (key : α → κ) : Merged α :=
  let merged := keepFirst items.reverse key
  ⟨merged.items.reverse, merged.duplicates⟩

end ClusterTick
