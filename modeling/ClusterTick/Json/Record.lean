import ClusterTick.Json.Reader
import ClusterTick.Order.OrderedMap

/-!
# JSON forms of records

A type with a JSON form is written and read by one instance of `JsonForm`.
Reading is as strict as the ranges of the types: a number must be a whole
number in range, a list must be an array.  A record is read from an object, in
which unknown members are passed over and a known member may stand only once,
or from an array of its fields in order.
-/

namespace ClusterTick

/-- Types whose values are written as JSON and read back. -/
class JsonForm (α : Type) where
  /-- The JSON form of a value. -/
  toJson : α → Json
  /-- The value of a JSON form, `none` if it is no form of a value. -/
  ofJson? : Json → Option α
  /-- What is read of a text that holds the form of a value. -/
  shape : Json.Shape := .whole

namespace JsonForm

/-- The value whose form a text holds. -/
def ofText? {α : Type} [JsonForm α] (text : String) : Option α :=
  (Json.parseShape? (shape α) text).bind ofJson?

instance : JsonForm Bool where
  toJson := .bool
  ofJson?
    | .bool value => some value
    | _ => none

instance : JsonForm String where
  toJson := .string
  ofJson?
    | .string text => some text
    | _ => none

/-- The integer that a number denotes, if it is one of a range. -/
def integerWithin? (low high : Int) : Json → Option Int
  | .number (.integer value) =>
    if low ≤ value ∧ value ≤ high then some value else none
  | _ => none

instance : JsonForm UInt32 where
  toJson value := .ofNat value.toNat
  ofJson? json :=
    (integerWithin? 0 (UInt32.size - 1) json).map fun value =>
      UInt32.ofNat value.toNat

instance : JsonForm UInt64 where
  toJson value := .ofNat value.toNat
  ofJson? json :=
    (integerWithin? 0 (UInt64.size - 1) json).map fun value =>
      UInt64.ofNat value.toNat

instance : JsonForm Int32 where
  toJson value := .ofInt value.toInt
  ofJson? json :=
    (integerWithin? Int32.minValue.toInt Int32.maxValue.toInt json).map
      Int32.ofInt

instance : JsonForm Int64 where
  toJson value := .ofInt value.toInt
  ofJson? json :=
    (integerWithin? Int64.minValue.toInt Int64.maxValue.toInt json).map
      Int64.ofInt

/-- Doubles that are not finite have no number and are written as `null`. -/
instance : JsonForm Binary64 where
  toJson value := if value.isFinite then .number (.double value) else .null
  ofJson?
    | .number (.integer value) => some (Binary64.ofInt value)
    | .number (.double value) => some value
    | _ => none

instance {α : Type} [JsonForm α] : JsonForm (Option α) where
  toJson
    | some value => toJson value
    | none => .null
  ofJson?
    | .null => some none
    | json => (ofJson? json).map some
  shape := shape α

instance {α : Type} [JsonForm α] : JsonForm (List α) where
  toJson values := .array (values.map toJson)
  ofJson?
    | .array items => items.mapM ofJson?
    | _ => none
  shape := .list (shape α)

/-- A map is an object; of a repeated key the last member counts. -/
instance {α : Type} [JsonForm α] : JsonForm (OrderedMap String α) where
  toJson map :=
    .object (map.entries.map fun (key, value) => (key, toJson value))
  ofJson?
    | .object members => do
      let entries ←
        members.mapM fun (key, json) =>
          (ofJson? json).map fun value => (key, value)
      return OrderedMap.ofList entries
    | _ => none

end JsonForm

namespace Json

/-- The name that stands for one of a set of choices: a string, or the only
member of an object, whose value is `null`. -/
def choiceName? : Json → Option String
  | string name => some name
  | object [(name, null)] => some name
  | _ => none

/-- The choice with the name that a value gives. -/
def choice? {α : Type} (choices : List α) (name : α → String) (json : Json) :
    Option α :=
  json.choiceName?.bind fun given =>
    choices.find? fun choice => name choice = given

end Json

/-- The fields of a record that are present, each under its name. -/
structure Fields where
  present : List (String × Json)

namespace Fields

/-- The fields of a record with the given field names.  An object gives them by
name, none of them twice; an array gives them in order, the last ones may be
missing. -/
def read? (names : List String) : Json → Option Fields
  | .object members =>
    if names.all fun name =>
      (members.filter fun entry => entry.1 = name).length ≤ 1 then
      some ⟨members⟩
    else
      none
  | .array items =>
    if items.length ≤ names.length then some ⟨names.zip items⟩ else none
  | _ => none

def get? (fields : Fields) (name : String) : Option Json :=
  (fields.present.find? fun entry => entry.1 = name).map (·.2)

/-- A field that must be present. -/
def required {α : Type} [JsonForm α] (fields : Fields) (name : String) :
    Option α :=
  (fields.get? name).bind JsonForm.ofJson?

/-- A field that has a value of its own when it is absent. -/
def withDefault {α : Type} [JsonForm α] (fields : Fields) (name : String)
    (fallback : α) : Option α :=
  match fields.get? name with
  | some json => JsonForm.ofJson? json
  | none => some fallback

end Fields

end ClusterTick
