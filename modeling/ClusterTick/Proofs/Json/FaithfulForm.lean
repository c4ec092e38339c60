import ClusterTick.Model.Node
import ClusterTick.Model.Task
import ClusterTick.Proofs.Json.Alike
import ClusterTick.Proofs.Numeric.NumberText

/-!
# Forms that can be told apart

The JSON form of a record keeps every field, so two records with alike forms are
equal.  Fields of one record are told apart by their names, and each field by
the form of its own type.
-/

namespace ClusterTick

/-- Types whose JSON forms have distinct keys and are alike for equal values
only. -/
class FaithfulForm (α : Type) [JsonForm α] : Prop where
  hasDistinctKeys (value : α) : (JsonForm.toJson value).HasDistinctKeys
  alike_iff (left right : α) :
    (JsonForm.toJson left).Alike (JsonForm.toJson right) ↔ left = right

namespace FaithfulForm

attribute [simp] hasDistinctKeys alike_iff

variable {α : Type} [JsonForm α]

/-- A form that is a text of its own for each value. -/
theorem ofText {text : α → String}
    (hform : ∀ value : α, JsonForm.toJson value = .string (text value))
    (hinjective : Function.Injective text) : FaithfulForm α where
  hasDistinctKeys value := by simp only [hform, Json.HasDistinctKeys]
  alike_iff left right := by simp only [hform, Json.Alike, hinjective.eq_iff]

/-- A form that is an integer of its own for each value. -/
theorem ofInteger {integer : α → Int}
    (hform : ∀ value : α, JsonForm.toJson value = .ofInt (integer value))
    (hinjective : Function.Injective integer) : FaithfulForm α where
  hasDistinctKeys value := by
    simp only [hform, Json.ofInt, Json.HasDistinctKeys]
  alike_iff left right := by
    simp only [hform, Json.ofInt, Json.Alike, JsonNumber.text,
      integerText_injective.eq_iff, hinjective.eq_iff]

instance : FaithfulForm Bool where
  hasDistinctKeys value := by simp only [JsonForm.toJson, Json.HasDistinctKeys]
  alike_iff left right := by simp only [JsonForm.toJson, Json.Alike]

instance : FaithfulForm String := ofText (fun _ => rfl) Function.injective_id

instance : FaithfulForm UInt32 :=
  ofInteger (fun _ => rfl) fun _ _ hsame =>
    UInt32.toNat_inj.mp (Int.ofNat.inj hsame)

instance : FaithfulForm UInt64 :=
  ofInteger (fun _ => rfl) fun _ _ hsame =>
    UInt64.toNat_inj.mp (Int.ofNat.inj hsame)

instance : FaithfulForm Int32 :=
  ofInteger (fun _ => rfl) fun _ _ => Int32.toInt_inj.mp

instance {kind : LabelKind} : FaithfulForm (Label kind) :=
  ofText (fun _ => rfl) fun _ _ htext => Label.mk.injEq _ _ ▸ htext

instance : FaithfulForm TaskId :=
  ofInteger (fun _ => rfl) fun _ _ hsame =>
    (TaskId.mk.injEq _ _).mpr (UInt64.toNat_inj.mp (Int.ofNat.inj hsame))

instance : FaithfulForm SnapshotSeq :=
  ofInteger (fun _ => rfl) fun _ _ hsame =>
    (SnapshotSeq.mk.injEq _ _).mpr (UInt64.toNat_inj.mp (Int.ofNat.inj hsame))

instance : FaithfulForm NodeStatus :=
  ofText (fun _ => rfl) fun left right => by
    cases left <;> cases right <;> decide

instance : FaithfulForm QueueStatus :=
  ofText (fun _ => rfl) fun left right => by
    cases left <;> cases right <;> decide

instance : FaithfulForm TaskType :=
  ofText (fun _ => rfl) fun left right => by
    cases left <;> cases right <;> decide

instance : FaithfulForm Admission :=
  ofText (fun _ => rfl) fun left right => by
    cases left <;> cases right <;> decide

instance : FaithfulForm Decision :=
  ofText (fun _ => rfl) fun left right => by
    cases left <;> cases right <;> decide

/-- The form of an absent task is no number. -/
instance : FaithfulForm (Option TaskId) where
  hasDistinctKeys
    | none => by simp only [JsonForm.toJson, Json.HasDistinctKeys]
    | some value => hasDistinctKeys value
  alike_iff
    | none, none => by simp only [JsonForm.toJson, Json.Alike]
    | none, some right => by simp [JsonForm.toJson, Json.ofNat, Json.Alike]
    | some left, none => by simp [JsonForm.toJson, Json.ofNat, Json.Alike]
    | some left, some right =>
      (alike_iff left right).trans (Option.some_inj).symm

theorem alike_list (left right : List α) :
    (JsonForm.toJson left).Alike (JsonForm.toJson right) ↔
      List.Forall₂
        (fun first second =>
          (JsonForm.toJson first).Alike (JsonForm.toJson second))
        left right := by
  simp only [JsonForm.toJson, Json.alike_array, List.forall₂_map_left_iff,
    List.forall₂_map_right_iff]

theorem hasDistinctKeys_list {values : List α}
    (hvalues : ∀ value ∈ values, (JsonForm.toJson value).HasDistinctKeys) :
    (JsonForm.toJson values).HasDistinctKeys :=
  (Json.hasDistinctKeys_array _).mpr (List.forall_mem_map.mpr hvalues)

instance [FaithfulForm α] : FaithfulForm (List α) where
  hasDistinctKeys _ := hasDistinctKeys_list fun value _ => hasDistinctKeys value
  alike_iff left right := by
    simp only [alike_list, alike_iff, List.forall₂_eq_eq_eq]

instance : FaithfulForm Node where
  hasDistinctKeys node :=
    Json.hasDistinctKeys_record (by decide : Node.fieldNames.Nodup) rfl
      (by simp)
  alike_iff left right := by
    refine (Json.alike_record (by decide : Node.fieldNames.Nodup) rfl rfl).trans
      ?_
    cases left
    cases right
    simp [Json.AlikeEntries]

end FaithfulForm

end ClusterTick
