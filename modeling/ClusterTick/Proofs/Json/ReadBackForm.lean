import ClusterTick.Model.Node
import ClusterTick.Model.Task
import ClusterTick.Proofs.Json.WrittenText
import ClusterTick.Proofs.Order.OrderedMap

/-!
# Forms that are read back

A record is read back from its JSON form if its fields are: the form names every
field once, so each is found under its name and no fallback is used.  That the
written texts of the form are read back as well takes no more than that the form
fits the shape by which texts of the type are read.
-/

namespace ClusterTick

namespace Json

/-- What fits some shape fits as a whole. -/
theorem Fits.whole {depth : Nat} {shape : Shape} {value : Json}
    (hfits : Fits depth shape value) : Fits depth .whole value := by
  induction depth generalizing shape value with
  | zero => cases value <;> exact hfits
  | succ depth ih =>
    cases value with
    | array items => exact fun index item hitem => ih (hfits index item hitem)
    | object members =>
      intro entry hentry
      obtain ⟨inner, -, hinner⟩ := hfits entry hentry
      exact ⟨.whole, rfl, ih hinner⟩
    | null | bool | number | string => exact hfits

theorem fits_null (depth : Nat) (shape : Shape) : Fits depth shape null := by
  cases depth <;> trivial

theorem fits_bool (depth : Nat) (shape : Shape) (value : Bool) :
    Fits depth shape (bool value) := by
  cases depth <;> trivial

theorem fits_string (depth : Nat) (shape : Shape) (text : String) :
    Fits depth shape (string text) := by
  cases depth <;> trivial

theorem fits_number {value : JsonNumber} (hback : value.IsReadBack)
    (depth : Nat) (shape : Shape) : Fits depth shape (number value) := by
  cases depth <;> exact hback

/-- The shape by which a field of a record is read. -/
def fieldShape (shaped : List (String × Shape)) (name : String) : Shape :=
  ((shaped.find? fun field => field.1 = name).map (·.2)).getD .whole

@[simp]
theorem fieldShape_nil (name : String) : fieldShape [] name = .whole := rfl

@[simp]
theorem fieldShape_cons (key : String) (shape : Shape)
    (rest : List (String × Shape)) (name : String) :
    fieldShape ((key, shape) :: rest) name =
      if key = name then shape else fieldShape rest name := by
  by_cases hkey : key = name <;> simp [fieldShape, hkey]

private theorem member?_ofFields {names : List String} {name : String}
    (hmem : name ∈ names) (shaped : List (String × Shape)) :
    (Shape.ofFields names shaped).member? name =
      some (fieldShape shaped name) := by
  induction names with
  | nil => cases hmem
  | cons first rest ih =>
    by_cases hname : first = name
    · simp [Shape.ofFields, Shape.member?, fieldShape, hname]
    · have hrest := ih ((List.mem_cons.mp hmem).resolve_left (Ne.symm hname))
      simpa [Shape.ofFields, Shape.member?, hname] using hrest

/-- A record fits if its fields do. -/
theorem fits_record {depth : Nat} {names : List String}
    {shaped : List (String × Shape)} {members : List (String × Json)}
    (hnames : members.map (·.1) = names)
    (hmembers : ∀ entry ∈ members,
      Fits depth (fieldShape shaped entry.1) entry.2) :
    Fits (depth + 1) (.ofFields names shaped) (object members) := by
  intro entry hentry
  have hmem : entry.1 ∈ names := hnames ▸ List.mem_map_of_mem hentry
  exact ⟨_, member?_ofFields hmem shaped, hmembers entry hentry⟩

end Json

namespace Fields

/-- An object with the fields of a record, each once, is read as these
fields. -/
theorem read?_object {names : List String} {members : List (String × Json)}
    (hnames : members.map (·.1) = names) (hdistinct : names.Nodup) :
    read? names (.object members) = some ⟨members⟩ := by
  have honce : ∀ name ∈ names,
      (members.filter fun entry => entry.1 = name).length ≤ 1 := by
    intro name _
    have hcount : (members.filter fun entry => entry.1 = name).length =
        names.count name := by
      rw [← hnames, List.count_eq_countP, List.countP_map,
        List.countP_eq_length_filter]
      rfl
    rw [hcount]
    exact List.nodup_iff_count_le_one.mp hdistinct name
  rw [read?, if_pos (by simpa using honce)]

section Lookup

variable {α : Type} [JsonForm α] (key : String) (json : Json)
  (rest : List (String × Json)) (name : String)

@[simp]
theorem required_cons : (required ⟨(key, json) :: rest⟩ name : Option α) =
    if key = name then JsonForm.ofJson? json else required ⟨rest⟩ name := by
  by_cases hkey : key = name <;> simp [required, get?, hkey]

@[simp]
theorem withDefault_cons (fallback : α) :
    withDefault ⟨(key, json) :: rest⟩ name fallback =
      if key = name then JsonForm.ofJson? json
      else withDefault ⟨rest⟩ name fallback := by
  by_cases hkey : key = name <;> simp [withDefault, get?, hkey]

end Lookup

end Fields

namespace JsonForm

section Values

variable {α : Type} [JsonForm α]

/-- A value that is read back from its form, where the form fits the shape of
the type and has at most `depth` nested arrays and objects. -/
structure IsReadBack (depth : Nat) (value : α) : Prop where
  ofJson?_toJson : ofJson? (toJson value) = some value
  fits : Json.Fits depth (shape α) (toJson value)

/-- A value that survives being written and read: as a tree of values, as a
compact text and as an indented one. -/
structure Survives (value : α) : Prop where
  tree : ofJson? (toJson value) = some value
  compact : ofText? (toJson value).compact = some value
  pretty : ofText? (toJson value).pretty = some value

/-- What is read back from its form is read back from its written texts. -/
theorem IsReadBack.survives {value : α}
    (hback : IsReadBack Json.maximumDepth value) : Survives value where
  tree := hback.ofJson?_toJson
  compact := by
    rw [ofText?, Json.parseShape?_compact hback.fits, Option.bind_some,
      hback.ofJson?_toJson]
  pretty := by
    rw [ofText?, Json.parseShape?_pretty hback.fits, Option.bind_some,
      hback.ofJson?_toJson]

theorem mapM_map {β γ : Type} {write : β → γ} {read : γ → Option β}
    {values : List β}
    (hread : ∀ value ∈ values, read (write value) = some value) :
    (values.map write).mapM read = some values := by
  induction values with
  | nil => rfl
  | cons value rest ih =>
    rw [List.forall_mem_cons] at hread
    simp [hread.1, ih hread.2]

/-- A list is read back if its items are. -/
theorem isReadBack_list {depth : Nat} {values : List α}
    (hvalues : ∀ value ∈ values, IsReadBack depth value) :
    IsReadBack (depth + 1) values where
  ofJson?_toJson :=
    mapM_map fun value hvalue => (hvalues value hvalue).ofJson?_toJson
  fits := by
    intro index item hitem
    obtain ⟨value, hvalue, rfl⟩ := List.mem_map.mp (List.mem_of_getElem? hitem)
    exact (hvalues value hvalue).fits

/-- A map is read back if its values are. -/
theorem isReadBack_map {depth : Nat} {map : OrderedMap String α}
    (hvalues : ∀ entry ∈ map.entries, IsReadBack depth entry.2) :
    IsReadBack (depth + 1) map where
  ofJson?_toJson := by
    have hentries :
        (map.entries.map fun entry => (entry.1, toJson entry.2)).mapM
            (fun entry => (ofJson? entry.2).map fun value => (entry.1, value)) =
          some map.entries :=
      mapM_map fun entry hentry => by
        simp only [(hvalues entry hentry).ofJson?_toJson, Option.map_some]
    calc ofJson? (toJson map)
        =
      (some map.entries).bind fun entries => some (OrderedMap.ofList entries) :=
          congrArg
            (Option.bind · fun entries => some (OrderedMap.ofList entries))
            hentries
      _ = some map := congrArg some map.ofList_entries
  fits := by
    intro entry hentry
    obtain ⟨⟨key, value⟩, hvalue, rfl⟩ := List.mem_map.mp hentry
    exact ⟨.whole, rfl, (hvalues _ hvalue).fits.whole⟩

/-- A record is read back from a form with all fields, each once, if this is
true of its fields. -/
theorem isReadBack_record {depth : Nat} {value : α}
    {members : List (String × Json)} {names : List String}
    {shaped : List (String × Json.Shape)} {ofFields : Fields → Option α}
    (hform : toJson value = .object members)
    (hread : ∀ json, ofJson? json = (Fields.read? names json).bind ofFields)
    (hshape : shape α = .ofFields names shaped)
    (hnames : members.map (·.1) = names) (hdistinct : names.Nodup)
    (hfields : ofFields ⟨members⟩ = some value)
    (hfits : ∀ entry ∈ members,
      Json.Fits depth (Json.fieldShape shaped entry.1) entry.2) :
    IsReadBack (depth + 1) value where
  ofJson?_toJson := by
    rw [hform, hread, Fields.read?_object hnames hdistinct, Option.bind_some,
      hfields]
  fits := by
    rw [hform, hshape]
    exact Json.fits_record hnames hfits

end Values

end JsonForm

/-- Types all of whose values are read back, by forms that hold no other
values. -/
class ReadBackForm (α : Type) [JsonForm α] : Prop where
  isReadBack (depth : Nat) (value : α) : JsonForm.IsReadBack depth value

namespace ReadBackForm

variable {α : Type} [JsonForm α]

@[simp]
theorem ofJson?_toJson [ReadBackForm α] (value : α) :
    JsonForm.ofJson? (JsonForm.toJson value) = some value :=
  (isReadBack 0 value).ofJson?_toJson

@[simp]
theorem fits_toJson [ReadBackForm α] (depth : Nat) (value : α) :
    Json.Fits depth .whole (JsonForm.toJson value) :=
  (isReadBack depth value).fits.whole

@[simp]
theorem ofJson?_toJson_list [ReadBackForm α] (values : List α) :
    JsonForm.ofJson? (JsonForm.toJson values) = some values :=
  (JsonForm.isReadBack_list fun value _ => isReadBack 0 value).ofJson?_toJson

@[simp]
theorem fits_toJson_list [ReadBackForm α] (depth : Nat) (values : List α) :
    Json.Fits (depth + 1) .whole (JsonForm.toJson values) :=
  (JsonForm.isReadBack_list fun value _ => isReadBack depth value).fits.whole

/-- A form that is a text. -/
theorem ofText {text : α → String}
    (hform : ∀ value : α, JsonForm.toJson value = .string (text value))
    (hread : ∀ value : α,
      JsonForm.ofJson? (.string (text value)) = some value) :
    ReadBackForm α where
  isReadBack depth value :=
    ⟨by rw [hform, hread], by rw [hform]; exact Json.fits_string depth _ _⟩

/-- A form that is an integer of a range within the signed and the unsigned
one. -/
theorem ofInteger {low high : Int} {integer : α → Int} {ofInt : Int → α}
    (hlow : Int64.minValue.toInt ≤ low) (hhigh : high < UInt64.size)
    (hform : ∀ value : α, JsonForm.toJson value = .ofInt (integer value))
    (hread : ∀ json,
      JsonForm.ofJson? json = (JsonForm.integerWithin? low high json).map ofInt)
    (hrange : ∀ value, low ≤ integer value ∧ integer value ≤ high)
    (hinverse : ∀ value, ofInt (integer value) = value) : ReadBackForm α where
  isReadBack depth value := by
    have hback : (JsonNumber.integer (integer value)).IsReadBack :=
      Json.isReadBack_integer (Int.le_trans hlow (hrange value).1)
        (Int.lt_of_le_of_lt (hrange value).2 hhigh)
    refine ⟨?_, by rw [hform]; exact Json.fits_number hback depth _⟩
    simp only [hform, hread, JsonForm.integerWithin?, Json.ofInt,
      if_pos (hrange value), Option.map_some, hinverse]

instance : ReadBackForm Bool :=
  ⟨fun depth value => ⟨rfl, Json.fits_bool depth _ value⟩⟩

instance : ReadBackForm String := ofText (fun _ => rfl) fun _ => rfl

instance {kind : LabelKind} : ReadBackForm (Label kind) :=
  ofText (fun _ => rfl) fun _ => rfl

instance : ReadBackForm UInt32 :=
  ofInteger (by decide) (by decide) (fun _ => rfl) (fun _ => rfl)
    (fun value => by have := value.toNat_lt_size; omega) fun _ =>
      UInt32.ofNat_toNat

instance : ReadBackForm UInt64 :=
  ofInteger (by decide) (by decide) (fun _ => rfl) (fun _ => rfl)
    (fun value => by have := value.toNat_lt_size; omega) fun _ =>
      UInt64.ofNat_toNat

instance : ReadBackForm Int32 :=
  ofInteger (by decide) (by decide) (fun _ => rfl) (fun _ => rfl)
    (fun value => ⟨value.minValue_le_toInt, value.toInt_le⟩) Int32.ofInt_toInt

instance : ReadBackForm Int64 :=
  ofInteger (by decide) (by decide) (fun _ => rfl) (fun _ => rfl)
    (fun value => ⟨value.minValue_le_toInt, value.toInt_le⟩) Int64.ofInt_toInt

/-- A form that is the form of the one field. -/
theorem ofField {β : Type} [JsonForm β] [ReadBackForm β] (field : α → β)
    (make : β → α)
    (hform : ∀ value : α, JsonForm.toJson value = JsonForm.toJson (field value))
    (hread : ∀ json,
      (JsonForm.ofJson? json : Option α) = (JsonForm.ofJson? json).map make)
    (hmake : ∀ value, make (field value) = value)
    (hshape : JsonForm.shape α = .whole) : ReadBackForm α where
  isReadBack depth value :=
    ⟨by rw [hform, hread, ofJson?_toJson, Option.map_some, hmake],
      by rw [hform, hshape]; exact fits_toJson depth _⟩

instance : ReadBackForm TaskId :=
  ofField TaskId.value TaskId.mk (fun _ => rfl) (fun _ => rfl) (fun _ => rfl)
    rfl

instance : ReadBackForm SnapshotSeq :=
  ofField SnapshotSeq.value SnapshotSeq.mk (fun _ => rfl) (fun _ => rfl)
    (fun _ => rfl) rfl

/-- The form of an absent task is no number. -/
instance : ReadBackForm (Option TaskId) where
  isReadBack depth
    | none => ⟨rfl, Json.fits_null depth _⟩
    | some id => ⟨by
        show (JsonForm.ofJson? (JsonForm.toJson id)).map some = some (some id)
        rw [ofJson?_toJson, Option.map_some], fits_toJson depth id⟩

instance : ReadBackForm NodeStatus :=
  ofText (fun _ => rfl) fun value => by cases value <;> decide

instance : ReadBackForm QueueStatus :=
  ofText (fun _ => rfl) fun value => by cases value <;> decide

instance : ReadBackForm TaskType :=
  ofText (fun _ => rfl) fun value => by cases value <;> decide

instance : ReadBackForm Admission :=
  ofText (fun _ => rfl) fun value => by cases value <;> decide

instance : ReadBackForm Decision :=
  ofText (fun _ => rfl) fun value => by cases value <;> decide

end ReadBackForm

end ClusterTick
