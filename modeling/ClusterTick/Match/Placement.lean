import ClusterTick.Model.Node
import ClusterTick.Order.OrderedMap

/-!
# Placement

The choice of nodes for a task.  Training work wants its nodes in one room: the
smallest room that can supply all of them, so that larger rooms stay whole.
Preferred nodes, which were freed for the task, come first.  Validation work
takes the first nodes by name.
-/

namespace ClusterTick.Placement

/-- Preferred nodes before the others. -/
def comparePreferred (preferred : List NodeName) (left right : Node) :
    Ordering :=
  compare (preferred.contains right.name) (preferred.contains left.name)

/-- Order inside a room: preferred nodes first, then by spine, leaf and name. -/
def compareInRoom (preferred : List NodeName) (left right : Node) : Ordering :=
  (((comparePreferred preferred left right).then
        (compare left.spine right.spine)).then
      (compare left.leaf right.leaf)).then (compare left.name right.name)

/-- Order across rooms: preferred nodes first, then room by room. -/
def compareAcrossRooms (preferred : List NodeName) (left right : Node) :
    Ordering :=
  ((comparePreferred preferred left right).then
      (compare left.room right.room)).then (compareInRoom preferred left right)

/-- The free nodes of a room. -/
def inRoom (free : List Node) (room : String) : List Node :=
  free.filter fun node => node.room = room

/-- Whether a room has no preferred node among its free ones. -/
def lacksPreferred (preferred : List NodeName) (free : List Node)
    (room : String) : Bool :=
  !(inRoom free room).any fun node => preferred.contains node.name

/-- Order of the rooms that are large enough: rooms with a preferred node first,
then the smallest, then by name. -/
def compareRooms (preferred : List NodeName) (free : List Node)
    (left right : String) : Ordering :=
  ((compare (lacksPreferred preferred free left)
        (lacksPreferred preferred free right)).then
      (compare (inRoom free left).length (inRoom free right).length)).then
    (compare left right)

/-- The rooms that can supply a number of nodes. -/
def largeRooms (free : List Node) (count : Nat) : List String :=
  (sortedKeys (free.map Node.room)).filter fun room =>
    count ≤ (inRoom free room).length

/-- The room that a number of nodes is taken from, if one is large enough. -/
def bestRoom? (preferred : List NodeName) (free : List Node) (count : Nat) :
    Option String :=
  ((largeRooms free count).mergeSort fun left right =>
    (compareRooms preferred free left right).isLE).head?

/-- A number of free nodes, in one room if possible.  `none` if there are too
few. -/
def selectNodes (free : List Node) (preferred : List NodeName) (count : Nat) :
    Option (List NodeName) :=
  if free.length < count then
    none
  else
    let ordered :=
      match bestRoom? preferred free count with
      | some room => (inRoom free room).mergeSort fun left right =>
          (compareInRoom preferred left right).isLE
      | none =>
        free.mergeSort fun left right =>
          (compareAcrossRooms preferred left right).isLE
    some ((ordered.take count).map Node.name)

/-- The first free nodes by name.  `none` if there are too few. -/
def selectByName (free : List Node) (count : Nat) : Option (List NodeName) :=
  if free.length < count then
    none
  else
    some
      (((free.map Node.name).mergeSort fun left right =>
          (compare left right).isLE).take count)

end ClusterTick.Placement
