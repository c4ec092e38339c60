import ClusterTick.Model.Identifier

/-!
# Users

A user row is an owner of quota: a person, a shared group, or the account of a
role.  A person inherits from the rows listed in `groups` and from the row that
is named like its role.
-/

namespace ClusterTick

/-- The scheduling privilege of a user. -/
inductive UserRole where
  | internal
  /-- External users cannot choose a priority. -/
  | external
  deriving DecidableEq, Repr, Inhabited

namespace UserRole

def name : UserRole → String
  | internal => "internal"
  | external => "external"

instance : JsonForm UserRole where
  toJson role := .string role.name
  ofJson? json := json.choice? [internal, external] name

end UserRole

/-- An owner of quota. -/
structure User where
  userName : UserName
  role : UserRole := .internal
  /-- The shared owners that the user inherits from. -/
  groups : List UserName := []
  /-- Granted amounts by resource, such as `node-training-HIGH`. -/
  quota : OrderedMap String Int64 := OrderedMap.empty
  deriving DecidableEq, Repr, Inhabited

namespace User

def isInternal (user : User) : Bool := user.role = .internal

def fieldNames : List String := ["user_name", "role", "groups", "quota"]

instance : JsonForm User where
  toJson user := .object [
    ("user_name", JsonForm.toJson user.userName),
    ("role", JsonForm.toJson user.role),
    ("groups", JsonForm.toJson user.groups),
    ("quota", JsonForm.toJson user.quota)]
  ofJson? json := do
    let fields ← Fields.read? fieldNames json
    return {
      userName := ← fields.required "user_name"
      role := ← fields.withDefault "role" .internal
      groups := ← fields.withDefault "groups" []
      quota := ← fields.withDefault "quota" OrderedMap.empty }
  shape := .ofNames fieldNames

end User

end ClusterTick
