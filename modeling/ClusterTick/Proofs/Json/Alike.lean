import ClusterTick.Json.Basic
import Mathlib.Data.List.Forall2

/-!
# Values that mean the same

Two values are alike if they differ in nothing but the order of the members of
their objects.  Numbers are compared by their texts, since that is all that a
written form keeps of them.
-/

namespace ClusterTick.Json

/-- Induction on a value, where an array or object may use what holds of the
values inside it. -/
@[elab_as_elim]
theorem inductionOn {motive : Json → Prop} (null : motive null)
    (bool : ∀ value, motive (bool value))
    (number : ∀ value, motive (number value))
    (string : ∀ text, motive (string text))
    (array : ∀ items, (∀ item ∈ items, motive item) → motive (array items))
    (object : ∀ members, (∀ entry ∈ members, motive entry.2) →
      motive (object members))
    (value : Json) : motive value :=
  @Json.rec motive (fun items => ∀ item ∈ items, motive item)
    (fun members => ∀ entry ∈ members, motive entry.2)
    (fun entry => motive entry.2) null bool number string array object
    (List.forall_mem_nil _)
    (fun _ _ hitem hrest => List.forall_mem_cons.2 ⟨hitem, hrest⟩)
    (List.forall_mem_nil _)
    (fun _ _ hentry hrest => List.forall_mem_cons.2 ⟨hentry, hrest⟩)
    (fun _ _ hvalue => hvalue) value

mutual

/-- Whether no object in a value has two members of one key. -/
def HasDistinctKeys : Json → Prop
  | array items => HaveDistinctKeys items
  | object members =>
    (members.map (·.1)).Nodup ∧ MembersHaveDistinctKeys members
  | _ => True

def HaveDistinctKeys : List Json → Prop
  | [] => True
  | item :: rest => HasDistinctKeys item ∧ HaveDistinctKeys rest

def MembersHaveDistinctKeys : List (String × Json) → Prop
  | [] => True
  | (_, value) :: rest => HasDistinctKeys value ∧ MembersHaveDistinctKeys rest

end

mutual

/-- Values that are equal up to the order of object members: arrays hold alike
values in the same order, and the members of one object can be put in an order
in which they have the keys of the other's, with alike values. -/
def Alike : Json → Json → Prop
  | null, null => True
  | bool left, bool right => left = right
  | number left, number right => left.text = right.text
  | string left, string right => left = right
  | array left, array right => AlikeItems left right
  | object left, object right =>
    ∃ arranged, arranged.Perm right ∧ AlikeMembers left arranged
  | _, _ => False

def AlikeItems : List Json → List Json → Prop
  | [], [] => True
  | left :: lefts, right :: rights => Alike left right ∧ AlikeItems lefts rights
  | _, _ => False

def AlikeMembers : List (String × Json) → List (String × Json) → Prop
  | [], [] => True
  | (leftKey, left) :: lefts, (rightKey, right) :: rights =>
    (leftKey = rightKey ∧ Alike left right) ∧ AlikeMembers lefts rights
  | _, _ => False

end

/-- Members of one key with alike values. -/
def AlikeEntries (left right : String × Json) : Prop :=
  left.1 = right.1 ∧ left.2.Alike right.2

theorem haveDistinctKeys_iff (items : List Json) :
    HaveDistinctKeys items ↔ ∀ item ∈ items, item.HasDistinctKeys := by
  induction items with
  | nil => simp [HaveDistinctKeys]
  | cons item rest ih => simp [HaveDistinctKeys, ih]

theorem membersHaveDistinctKeys_iff (members : List (String × Json)) :
    MembersHaveDistinctKeys members ↔
      ∀ entry ∈ members, entry.2.HasDistinctKeys := by
  induction members with
  | nil => simp [MembersHaveDistinctKeys]
  | cons entry rest ih => rw [MembersHaveDistinctKeys, ih, List.forall_mem_cons]

@[simp]
theorem hasDistinctKeys_array (items : List Json) :
    (array items).HasDistinctKeys ↔ ∀ item ∈ items, item.HasDistinctKeys := by
  rw [HasDistinctKeys, haveDistinctKeys_iff]

@[simp]
theorem hasDistinctKeys_object (members : List (String × Json)) :
    (object members).HasDistinctKeys ↔
      (members.map (·.1)).Nodup ∧
        ∀ entry ∈ members, entry.2.HasDistinctKeys := by
  rw [HasDistinctKeys, membersHaveDistinctKeys_iff]

theorem alikeItems_iff (left right : List Json) :
    AlikeItems left right ↔ List.Forall₂ Alike left right := by
  induction left generalizing right with
  | nil => cases right <;> simp [AlikeItems]
  | cons item rest ih => cases right <;> simp [AlikeItems, ih]

theorem alikeMembers_iff (left right : List (String × Json)) :
    AlikeMembers left right ↔ List.Forall₂ AlikeEntries left right := by
  induction left generalizing right with
  | nil => cases right <;> simp [AlikeMembers]
  | cons entry rest ih => cases right <;> simp [AlikeMembers, AlikeEntries, ih]

@[simp]
theorem alike_array (left right : List Json) :
    (array left).Alike (array right) ↔ List.Forall₂ Alike left right := by
  rw [Alike, alikeItems_iff]

@[simp]
theorem alike_object (left right : List (String × Json)) :
    (object left).Alike (object right) ↔
      ∃ arranged, arranged.Perm right ∧
        List.Forall₂ AlikeEntries left arranged := by
  simp only [Alike, alikeMembers_iff]

theorem alike_refl (value : Json) : value.Alike value := by
  induction value using inductionOn with
  | null | bool | number | string => simp only [Alike]
  | array items ih =>
    exact (alike_array items items).mpr (List.forall₂_same.mpr ih)
  | object members ih =>
    exact (alike_object members members).mpr ⟨members, .refl members,
      List.forall₂_same.mpr fun entry hentry => ⟨rfl, ih entry hentry⟩⟩

/-- The order of the members of an object does not matter. -/
theorem alike_object_of_perm {left right : List (String × Json)}
    (hperm : left.Perm right) : (object left).Alike (object right) :=
  (alike_object left right).mpr ⟨left, hperm,
    List.forall₂_same.mpr fun entry _ => ⟨rfl, entry.2.alike_refl⟩⟩

theorem forall₂_imp_of_mem {α : Type} {before after : α → α → Prop}
    {left right : List α} (hbefore : List.Forall₂ before left right)
    (himp : ∀ first ∈ left, ∀ second ∈ right, before first second →
      after first second) :
    List.Forall₂ after left right := by
  induction hbefore with
  | nil => exact .nil
  | cons hfirst hrest ih =>
    exact .cons (himp _ List.mem_cons_self _ List.mem_cons_self hfirst)
      (ih fun first hleft second hright =>
        himp first (List.mem_cons_of_mem _ hleft) second
          (List.mem_cons_of_mem _ hright))

theorem forall₂_congr_of_mem {α : Type} {before after : α → α → Prop}
    {left right : List α}
    (hcongr : ∀ first ∈ left, ∀ second ∈ right,
      before first second ↔ after first second) :
    List.Forall₂ before left right ↔ List.Forall₂ after left right := by
  constructor
  · intro hbefore
    exact forall₂_imp_of_mem hbefore fun first hfirst second hsecond =>
      (hcongr first hfirst second hsecond).mp
  · intro hafter
    exact forall₂_imp_of_mem hafter fun first hfirst second hsecond =>
      (hcongr first hfirst second hsecond).mpr

/-- Lists with distinct keys that are permutations of each other are equal as
soon as their keys stand in the same order. -/
theorem eq_of_perm_of_keys {left right : List (String × Json)}
    (hperm : left.Perm right) (hkeys : left.map (·.1) = right.map (·.1))
    (hdistinct : (right.map (·.1)).Nodup) : left = right := by
  induction left generalizing right with
  | nil => exact (List.nil_perm.mp hperm).symm
  | cons entry rest ih =>
    obtain - | ⟨other, others⟩ := right
    · exact absurd hperm.length_eq (by simp)
    · simp only [List.map_cons, List.cons.injEq,
        List.nodup_cons] at hkeys hdistinct
      -- The first row is the only one with its key, so the permutation fixes
      -- it.
      have hentry : entry = other := by
        rcases List.mem_cons.mp (hperm.subset List.mem_cons_self) with
          heq | hlater
        · exact heq
        · exact absurd (List.mem_map_of_mem hlater) (hkeys.1 ▸ hdistinct.1)
      subst hentry
      rw [ih (List.perm_cons entry |>.mp hperm) hkeys.2 hdistinct.2]

section Records

variable {names : List String} {left right : List (String × Json)}

theorem hasDistinctKeys_record (hdistinct : names.Nodup)
    (hnames : left.map (·.1) = names)
    (hvalues : ∀ entry ∈ left, entry.2.HasDistinctKeys) :
    (object left).HasDistinctKeys :=
  (hasDistinctKeys_object left).mpr ⟨hnames ▸ hdistinct, hvalues⟩

/-- Objects that list the same keys are alike if they have alike values there,
one by one. -/
theorem alike_record (hdistinct : names.Nodup) (hleft : left.map (·.1) = names)
    (hright : right.map (·.1) = names) :
    (object left).Alike (object right) ↔
      List.Forall₂ AlikeEntries left right := by
  rw [alike_object]
  constructor
  · rintro ⟨arranged, hperm, halike⟩
    have harranged : arranged.map (·.1) = left.map (·.1) := by
      rw [← List.forall₂_eq_eq_eq, List.forall₂_map_left_iff,
        List.forall₂_map_right_iff]
      exact halike.flip.imp fun _ _ hentry => hentry.1.symm
    rwa [eq_of_perm_of_keys hperm (by rw [harranged, hleft, hright])
      (hright ▸ hdistinct)] at halike
  · exact fun halike => ⟨right, .refl right, halike⟩

end Records

end ClusterTick.Json
