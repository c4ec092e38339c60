import ClusterTick.Proofs.Json.Alike
import ClusterTick.Proofs.Json.StringText
import ClusterTick.Proofs.Numeric.NumberReading
import Mathlib.Data.List.Perm.Basic
import Mathlib.Data.List.Nodup

/-!
# The canonical form is faithful

A value can be told from the beginning of any text that starts with its
canonical form: the first character gives its kind, strings end at their closing
quote, numbers at the first character that no number has, and arrays and objects
where the comma after an item is missing.  So one text is the form of one value
only, up to the order of members, and values with distinct keys that differ in
that order alone have one form.
-/

namespace ClusterTick.Json

/-- Whatever text starts with the form of a value, followed by an end, has no
other beginning that is a form: another value with this beginning is alike, and
the same text follows it. -/
def Readable {α : Type} (form : α → List Char) (alike : α → α → Prop)
    (value : α) : Prop :=
  ∀ (other : α) (rest rest' : List Char), Ends rest → Ends rest' →
    form value ++ rest = form other ++ rest' → alike value other ∧ rest = rest'

section Lists

/-- Items with a comma in front of each. -/
def followers (items : List (List Char)) : List Char := items.flatMap (',' :: ·)

theorem joinItems_cons (item : List Char) (rest : List (List Char)) :
    joinItems (item :: rest) = item ++ followers rest := by
  induction rest generalizing item with
  | nil => simp [joinItems, followers]
  | cons next rest ih => simp [joinItems, ih, followers]

private theorem comma_joinItems (item : List Char) (rest : List (List Char)) :
    ',' :: joinItems (item :: rest) = followers (item :: rest) := by
  rw [joinItems_cons]
  rfl

variable {α : Type} {form : α → List Char} {alike : α → α → Prop} {close : Char}
  {rest rest' : List Char} {left right : List α}

theorem ends_followers (hclose : close = ']' ∨ close = '\x7d')
    (items : List (List Char)) (rest : List Char) :
    Ends (followers items ++ close :: rest) := by
  cases items <;> simp [Ends, followers, hclose]

/-- Items behind commas are read one by one up to the closing bracket. -/
theorem followers_inj (hclose : close = ']' ∨ close = '\x7d')
    (hread : ∀ value ∈ left, Readable form alike value)
    (htext : followers (left.map form) ++ close :: rest =
      followers (right.map form) ++ close :: rest') :
    List.Forall₂ alike left right ∧ rest = rest' := by
  have hcomma : close ≠ ',' := by rcases hclose with rfl | rfl <;> decide
  induction left generalizing right with
  | nil =>
    cases right with
    | nil => exact ⟨.nil, (List.cons.inj htext).2⟩
    | cons => exact absurd (List.cons.inj htext).1 hcomma
  | cons value left ih =>
    cases right with
    | nil => exact absurd (List.cons.inj htext).1.symm hcomma
    | cons other right =>
      rw [List.forall_mem_cons] at hread
      simp only [followers, List.map_cons, List.flatMap_cons, List.cons_append,
        List.cons.injEq, List.append_assoc, true_and] at htext
      obtain ⟨hvalue, htext⟩ := hread.1 other _ _ (ends_followers hclose _ _)
        (ends_followers hclose _ _) htext
      obtain ⟨hrest, hend⟩ := ih hread.2 htext
      exact ⟨.cons hvalue hrest, hend⟩

private theorem not_ends_joinItems
    (hbegin : ∀ value rest, ¬ Ends (form value ++ rest)) (value : α)
    (left : List α) (rest : List Char) :
    ¬ Ends (joinItems ((value :: left).map form) ++ rest) := by
  rw [List.map_cons, joinItems_cons, List.append_assoc]
  exact hbegin value _

/-- Items between commas are read up to the closing bracket: no item starts with
a character that ends one. -/
theorem joinItems_inj (hclose : close = ']' ∨ close = '\x7d')
    (hbegin : ∀ value rest, ¬ Ends (form value ++ rest))
    (hread : ∀ value ∈ left, Readable form alike value)
    (htext : joinItems (left.map form) ++ close :: rest =
      joinItems (right.map form) ++ close :: rest') :
    List.Forall₂ alike left right ∧ rest = rest' := by
  have hends (rest : List Char) :
      Ends (joinItems ([].map form) ++ close :: rest) :=
    ends_followers hclose [] rest
  cases left with
  | nil =>
    cases right with
    | nil => exact ⟨.nil, (List.cons.inj htext).2⟩
    | cons other right =>
      exact absurd (htext ▸ hends rest)
        (not_ends_joinItems hbegin other right _)
  | cons value left =>
    cases right with
    | nil =>
      exact absurd (htext ▸ hends rest')
        (not_ends_joinItems hbegin value left _)
    | cons other right =>
      -- With one more comma in front both texts are lists of followers.
      apply followers_inj hclose hread
      rw [List.map_cons, List.map_cons, ← comma_joinItems, ← comma_joinItems,
        List.cons_append, List.cons_append]
      exact congrArg (',' :: ·) htext

end Lists

section Members

/-- A member as it is written. -/
def memberForm (entry : String × Json) : List Char :=
  canonicalString entry.1 ++ ':' :: canonicalChars entry.2

private theorem joinMembers_eq_joinItems (members : List (String × List Char)) :
    joinMembers members =
      joinItems (members.map fun entry =>
        canonicalString entry.1 ++ ':' :: entry.2) := by
  induction members with
  | nil => rfl
  | cons entry rest ih =>
    cases rest with
    | nil => rfl
    | cons next rest => simp [joinMembers, joinItems, ih]

private theorem canonicalItems_eq_map (items : List Json) :
    canonicalItems items = items.map canonicalChars := by
  induction items with
  | nil => rfl
  | cons item rest ih => rw [canonicalItems, ih, List.map_cons]

theorem canonicalMembers_eq_map (members : List (String × Json)) :
    canonicalMembers members = members.map (Prod.map id canonicalChars) := by
  induction members with
  | nil => rfl
  | cons entry rest ih => rw [canonicalMembers, ih, List.map_cons]; rfl

theorem sortedMembers_map {α β : Type} (write : α → β)
    (members : List (String × α)) :
    sortedMembers (members.map (Prod.map id write)) =
      (sortedMembers members).map (Prod.map id write) :=
  (List.map_mergeSort (s := fun left right : String × β => left.1 ≤ right.1)
    fun _ _ _ _ => rfl).symm

theorem sortedMembers_perm {α : Type} (members : List (String × α)) :
    (sortedMembers members).Perm members := List.mergeSort_perm _ _

private theorem pairwise_sortedMembers {α : Type}
    (members : List (String × α)) :
    (sortedMembers members).Pairwise fun left right => left.1 ≤ right.1 := by
  have hsorted : (sortedMembers members).Pairwise fun left right =>
      decide (left.1 ≤ right.1) = true :=
    List.pairwise_mergeSort (fun _ _ _ => by simpa using String.le_trans)
      (fun _ _ => by simpa using String.le_total _ _) members
  simpa using hsorted

/-- Members with distinct keys are sorted alike in whatever order they come. -/
theorem sortedMembers_of_perm {α : Type} {left right : List (String × α)}
    (hdistinct : (right.map (·.1)).Nodup) (hperm : left.Perm right) :
    sortedMembers left = sortedMembers right := by
  refine List.Perm.eq_of_pairwise ?_ (pairwise_sortedMembers left)
    (pairwise_sortedMembers right)
    ((sortedMembers_perm left).trans
      (hperm.trans (sortedMembers_perm right).symm))
  intro first second hfirst hsecond hle hge
  have hfirst' := hperm.subset ((sortedMembers_perm left).subset hfirst)
  have hsecond' := (sortedMembers_perm right).subset hsecond
  exact List.inj_on_of_nodup_map hdistinct hfirst' hsecond'
    (String.le_antisymm hle hge)

theorem canonicalChars_array (items : List Json) :
    canonicalChars (array items) =
      '[' :: joinItems (items.map canonicalChars) ++ [']'] := by
  rw [canonicalChars, canonicalItems_eq_map]

private theorem canonicalChars_object (members : List (String × Json)) :
    canonicalChars (object members) =
      '\x7b' :: joinItems ((sortedMembers members).map memberForm) ++
        ['\x7d'] := by
  rw [canonicalChars, canonicalMembers_eq_map, sortedMembers_map,
    joinMembers_eq_joinItems, List.map_map]
  rfl

end Members

/-- What a value is. -/
inductive Kind where
  | null
  | bool
  | number
  | string
  | array
  | object

def kind : Json → Kind
  | null => .null
  | bool _ => .bool
  | number _ => .number
  | string _ => .string
  | array _ => .array
  | object _ => .object

/-- The kind of the values that are written with a first character. -/
def Kind.ofFirst : Char → Kind
  | 'n' => .null
  | 't' => .bool
  | 'f' => .bool
  | '"' => .string
  | '[' => .array
  | '\x7b' => .object
  | _ => .number

theorem Kind.ofFirst_of_isNumeric {c : Char} (hnumeric : isNumeric c) :
    ofFirst c = .number := by
  unfold ofFirst
  split
  case h_7 => rfl
  all_goals exact absurd hnumeric (by decide)

private theorem ofFirst_canonicalChars (value : Json) (rest : List Char) :
    (canonicalChars value ++ rest).head?.map Kind.ofFirst =
      some value.kind := by
  cases value with
  | number value =>
    obtain ⟨c, text, htext⟩ := List.exists_cons_of_ne_nil value.text_ne_nil
    have hnumeric : isNumeric c :=
      value.isNumeric_text c (htext ▸ List.mem_cons_self)
    simp [canonicalChars, htext, kind, Kind.ofFirst_of_isNumeric hnumeric]
  | bool value => cases value <;> rfl
  | null | string | array | object => rfl

/-- Values whose forms begin one text are of one kind. -/
theorem kind_eq_of_append {left right : Json} {rest rest' : List Char}
    (htext : canonicalChars left ++ rest = canonicalChars right ++ rest') :
    left.kind = right.kind := by
  have hkinds := ofFirst_canonicalChars left rest
  rw [htext, ofFirst_canonicalChars] at hkinds
  exact (Option.some.inj hkinds).symm

/-- No value starts with a character that ends one. -/
theorem not_ends_canonicalChars (value : Json) (rest : List Char) :
    ¬ Ends (canonicalChars value ++ rest) := by
  cases value with
  | number value =>
    obtain ⟨c, text, htext⟩ := List.exists_cons_of_ne_nil value.text_ne_nil
    have hnumeric : isNumeric c :=
      value.isNumeric_text c (htext ▸ List.mem_cons_self)
    intro hends
    rw [canonicalChars, htext, List.cons_append] at hends
    rw [hends.isNumeric_eq_false] at hnumeric
    cases hnumeric
  | bool value => cases value <;> simp [Ends, canonicalChars]
  | null | string | array | object =>
    simp [Ends, canonicalChars, canonicalString]

private theorem not_ends_memberForm (entry : String × Json) (rest : List Char) :
    ¬ Ends (memberForm entry ++ rest) := by
  simp [Ends, memberForm, canonicalString]

section Readable

private theorem takeWhile_number {value : JsonNumber} {rest : List Char}
    (hends : Ends rest) :
    (value.text ++ rest).takeWhile isNumeric = value.text := by
  rw [List.takeWhile_append_of_pos value.isNumeric_text]
  cases rest with
  | nil => simp
  | cons c rest => simp [hends.isNumeric_eq_false]

/-- A number extends to the first character that no number has. -/
theorem readable_number (value : JsonNumber) :
    Readable canonicalChars Alike (number value) := by
  intro other rest rest' hends hends' htext
  cases other with
  | number other =>
    simp only [canonicalChars] at htext
    have hsame : value.text = other.text := by
      rw [← takeWhile_number hends, htext, takeWhile_number hends']
    refine ⟨by rwa [Alike], ?_⟩
    rw [hsame] at htext
    exact List.append_cancel_left htext
  | null | bool | string | array | object => cases kind_eq_of_append htext

private theorem readable_string (text : String) :
    Readable canonicalChars Alike (string text) := by
  intro other rest rest' _ _ htext
  cases other with
  | string other =>
    simp only [canonicalChars] at htext
    simpa only [Alike] using canonicalString_append_inj htext
  | null | bool | number | array | object => cases kind_eq_of_append htext

private theorem readable_array {items : List Json}
    (hread : ∀ item ∈ items, Readable canonicalChars Alike item) :
    Readable canonicalChars Alike (array items) := by
  intro other rest rest' _ _ htext
  cases other with
  | array others =>
    simp only [canonicalChars_array, List.cons_append, List.append_assoc,
      List.cons.injEq, true_and, List.nil_append] at htext
    rw [alike_array]
    exact joinItems_inj (.inl rfl) not_ends_canonicalChars hread htext
  | null | bool | number | string | object => cases kind_eq_of_append htext

private theorem readable_member {entry : String × Json}
    (hread : Readable canonicalChars Alike entry.2) :
    Readable memberForm AlikeEntries entry := by
  intro other rest rest' hends hends' htext
  simp only [memberForm, List.append_assoc] at htext
  obtain ⟨hkey, hvalue⟩ := canonicalString_append_inj htext
  obtain ⟨halike, hrest⟩ :=
    hread other.2 rest rest' hends hends' (List.cons.inj hvalue).2
  exact ⟨⟨hkey, halike⟩, hrest⟩

private theorem readable_object {members : List (String × Json)}
    (hread : ∀ entry ∈ members, Readable canonicalChars Alike entry.2) :
    Readable canonicalChars Alike (object members) := by
  intro other rest rest' _ _ htext
  cases other with
  | object others =>
    simp only [canonicalChars_object, List.cons_append, List.append_assoc,
      List.cons.injEq, true_and, List.nil_append] at htext
    obtain ⟨halike, hrest⟩ := joinItems_inj (.inr rfl) not_ends_memberForm
      (fun entry hentry => readable_member
        (hread entry ((sortedMembers_perm members).subset hentry))) htext
    refine ⟨?_, hrest⟩
    -- The members are alike in sorted order; both orders are undone.
    obtain ⟨arranged, halike, hperm⟩ :=
      List.perm_comp_forall₂ (sortedMembers_perm members).symm halike
    rw [alike_object]
    exact ⟨arranged, hperm.trans (sortedMembers_perm others), halike⟩
  | null | bool | number | string | array => cases kind_eq_of_append htext

private theorem readable_null : Readable canonicalChars Alike null := by
  intro other rest rest' _ _ htext
  cases other with
  | null => exact ⟨by simp only [Alike], List.append_cancel_left htext⟩
  | bool | number | string | array | object => cases kind_eq_of_append htext

private theorem readable_bool (value : Bool) :
    Readable canonicalChars Alike (bool value) := by
  intro other rest rest' _ _ htext
  cases other with
  | bool other =>
    have hsame : value = other := by
      cases value <;> cases other <;> simp_all [canonicalChars]
    subst hsame
    exact ⟨by rw [Alike], List.append_cancel_left htext⟩
  | null | number | string | array | object => cases kind_eq_of_append htext

/-- Every value can be told from any text that begins with its form. -/
theorem readable (value : Json) : Readable canonicalChars Alike value := by
  induction value using inductionOn with
  | null => exact readable_null
  | bool value => exact readable_bool value
  | number value => exact readable_number value
  | string text => exact readable_string text
  | array items ih => exact readable_array ih
  | object members ih => exact readable_object ih

end Readable

section Writing

theorem map_eq_map_of_forall₂ {α β : Type} {related : α → α → Prop}
    {write : α → β} {left right : List α}
    (hrelated : List.Forall₂ related left right)
    (hwrite : ∀ first ∈ left, ∀ second ∈ right, related first second →
      write first = write second) :
    left.map write = right.map write := by
  rw [← List.forall₂_eq_eq_eq, List.forall₂_map_left_iff,
    List.forall₂_map_right_iff]
  exact forall₂_imp_of_mem hrelated hwrite

/-- A value that has the form of every value with distinct keys that it is alike
to. -/
def SharesForm (value : Json) : Prop :=
  ∀ other : Json, other.HasDistinctKeys → value.Alike other →
    canonicalChars value = canonicalChars other

private theorem sharesForm_array {items : List Json}
    (hitems : ∀ item ∈ items, item.SharesForm) : (array items).SharesForm := by
  intro other hdistinct halike
  cases other with
  | array others =>
    rw [alike_array] at halike
    rw [hasDistinctKeys_array] at hdistinct
    rw [canonicalChars_array, canonicalChars_array,
      map_eq_map_of_forall₂ halike]
    intro item hitem other hother hsame
    exact hitems item hitem other (hdistinct other hother) hsame
  | _ => simp only [Alike] at halike

/-- Nothing but the keys decides in which order members are written. -/
theorem sharesForm_object {members : List (String × Json)}
    (hmembers : ∀ entry ∈ members, entry.2.SharesForm) :
    (object members).SharesForm := by
  intro other hdistinct halike
  cases other with
  | object others =>
    obtain ⟨arranged, hperm, halike⟩ := (alike_object members others).mp halike
    rw [hasDistinctKeys_object] at hdistinct
    have hwritten : members.map (Prod.map id canonicalChars) =
        arranged.map (Prod.map id canonicalChars) := by
      apply map_eq_map_of_forall₂ halike
      intro entry hentry other hother hsame
      exact Prod.ext hsame.1 (hmembers entry hentry other.2
        (hdistinct.2 other (hperm.subset hother)) hsame.2)
    have hsorted : sortedMembers (arranged.map (Prod.map id canonicalChars)) =
        sortedMembers (others.map (Prod.map id canonicalChars)) := by
      rw [sortedMembers_map, sortedMembers_map,
        sortedMembers_of_perm hdistinct.1 hperm]
    rw [canonicalChars, canonicalChars, canonicalMembers_eq_map,
      canonicalMembers_eq_map, hwritten, hsorted]
  | _ => simp only [Alike] at halike

/-- Alike values have one form, if their objects have distinct keys. -/
theorem sharesForm (value : Json) : value.SharesForm := by
  induction value using inductionOn with
  | null =>
    intro other _ halike
    cases other with
    | null => rfl
    | _ => simp only [Alike] at halike
  | bool value =>
    intro other _ halike
    cases other with
    | bool other => simp only [Alike] at halike; rw [halike]
    | _ => simp only [Alike] at halike
  | number value =>
    intro other _ halike
    cases other with
    | number other => simpa only [Alike, canonicalChars] using halike
    | _ => simp only [Alike] at halike
  | string text =>
    intro other _ halike
    cases other with
    | string other => simp only [Alike] at halike; rw [halike]
    | _ => simp only [Alike] at halike
  | array items ih => exact sharesForm_array ih
  | object members ih => exact sharesForm_object ih

end Writing

/-- The canonical form of values with distinct keys shows them up to the order
of members, and shows nothing else. -/
theorem canonical_eq_iff {left right : Json}
    (hdistinct : right.HasDistinctKeys) :
    left.canonical = right.canonical ↔ left.Alike right := by
  constructor
  · intro htext
    have hchars : canonicalChars left ++ [] = canonicalChars right ++ [] := by
      simpa using String.ofList_injective htext
    have hends : Ends [] := by simp [Ends]
    exact (readable left right [] [] hends hends hchars).1
  · intro halike
    exact congrArg String.ofList (left.sharesForm right hdistinct halike)

end ClusterTick.Json
