/-!
# What is read of a JSON text

A record is read by the names of its fields, and members of other names are
passed over: of them only the outline is checked, so they may hold numbers,
strings and nestings that no value can stand for.  A shape says which members of
a text are read.
-/

namespace ClusterTick.Json

/-- Which parts of a value are read. -/
inductive Shape where
  /-- All of it. -/
  | whole
  /-- The items of an array, each by one shape. -/
  | list (item : Shape)
  /-- The named members of an object, or the items of an array in their
  order. -/
  | record (fields : List (String × Shape))
  deriving Repr, Inhabited

namespace Shape

/-- A record whose fields are read as a whole, but for those that have a shape
of their own. -/
def ofFields (names : List String) (shaped : List (String × Shape)) : Shape :=
  .record (names.map fun name =>
    (name, ((shaped.find? fun field => field.1 = name).map (·.2)).getD .whole))

/-- A record whose fields are read as a whole. -/
def ofNames (names : List String) : Shape := ofFields names []

/-- The shape of the item with an index. -/
def item (index : Nat) : Shape → Shape
  | whole => whole
  | list item => item
  | record fields => (fields[index]?.map (·.2)).getD whole

/-- The shape of the member with a key, `none` if the member is passed over. -/
def member? (key : String) : Shape → Option Shape
  | record fields => (fields.find? fun field => field.1 = key).map (·.2)
  | _ => some whole

end Shape

end ClusterTick.Json
