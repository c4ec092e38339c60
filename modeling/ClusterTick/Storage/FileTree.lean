import ClusterTick.Order.OrderedMap
import ClusterTick.Storage.FileSystem

/-!
# A tree of files in memory

Files and directories as a value.  A path is followed name by name from the
root: a dot stays, two dots go up, and every name but the last must be that of a
directory.  So two paths can lead to one place, and a path that ends with a
slash leads to no file.
-/

namespace ClusterTick

/-- What stands at a path. -/
inductive FileEntry where
  | file (text : String)
  | directory
  deriving DecidableEq, Repr

/-- Files and directories by path, slashes between the components.  The root is
always there. -/
structure FileTree where
  entries : OrderedMap String FileEntry := OrderedMap.empty
  deriving DecidableEq, Repr, Inhabited

namespace FileTree

/-- The components of a path. -/
def components (path : String) : List String :=
  (path.splitOn "/").filter fun part => part ≠ "" ∧ part ≠ "."

/-- The path of components. -/
def pathOf (parts : List String) : String := "/".intercalate parts

/-- Whether a file, a directory or nothing stands at a path. -/
def lookup (tree : FileTree) (parts : List String) : Option FileEntry :=
  if parts.isEmpty then some .directory else tree.entries.get? (pathOf parts)

def put (tree : FileTree) (parts : List String) (entry : FileEntry) :
    FileTree :=
  ⟨tree.entries.insert (pathOf parts) entry⟩

def isDirectory (tree : FileTree) (place : List String) : Bool :=
  match tree.lookup place with
  | some .directory => true
  | _ => false

/-- Why a path leads nowhere. -/
inductive PathFault where
  /-- There is nothing of a name on the way. -/
  | missing
  /-- A file stands on the way, or a name or the path is none that files
  have. -/
  | blocked
  deriving DecidableEq, Repr

/-- The most bytes that a name has. -/
def longestName : Nat := 255

/-- The most bytes that a path has. -/
def longestPath : Nat := 4095

/-- Whether a text can be a path at all. -/
def isPath (path : String) : Bool :=
  path.utf8ByteSize ≤ longestPath && path.toList.all fun c => c ≠ '\x00'

/-- Whether a name can be that of something new in a directory. -/
def isNewName (name : String) : Bool :=
  name ≠ "" && name ≠ "." && name ≠ ".." && name.utf8ByteSize ≤ longestName

/-- The place to which a name leads from a place. -/
def follow (tree : FileTree) (place : List String) (name : String) :
    Except PathFault (List String) :=
  if !tree.isDirectory place then .error .blocked
  else if name = "" ∨ name = "." then .ok place
  else if name = ".." then .ok place.dropLast
  else if longestName < name.utf8ByteSize then .error .blocked
  else
    match tree.lookup (place ++ [name]) with
    | some _ => .ok (place ++ [name])
    | none => .error .missing

/-- The place to which a path leads. -/
def resolve (tree : FileTree) (path : String) :
    Except PathFault (List String) :=
  if isPath path then (path.splitOn "/").foldlM tree.follow []
  else .error .blocked

/-- The place that the last name of a path has in its directory, whether or not
there is something yet. -/
def newPlace? (tree : FileTree) (path : String) : Option (List String) :=
  let names := path.splitOn "/"
  let name := names.getLast?.getD ""
  if !isPath path || !isNewName name then none
  else
    match names.dropLast.foldlM tree.follow [] with
    | .ok place =>
      if tree.isDirectory place then some (place ++ [name]) else none
    | .error _ => none

def read (path : String) (tree : FileTree) : ReadResult :=
  match tree.resolve path with
  | .error .missing => .missing
  | .error .blocked => .failed
  | .ok place =>
    match tree.lookup place with
    | some (.file text) => .content text
    | _ => .failed

/-- Writes a file unless its directory is not there or a directory stands in its
place. -/
def write (path text : String) (tree : FileTree) : Bool × FileTree :=
  match tree.newPlace? path with
  | some place =>
    if tree.isDirectory place then (false, tree)
    else (true, tree.put place (.file text))
  | none => (false, tree)

/-- Makes one directory, unless it is there.  Slashes at the end of its path do
not matter. -/
def makeOneDirectory (path : String) (tree : FileTree) : Bool × FileTree :=
  match tree.resolve path with
  | .ok place => (tree.isDirectory place, tree)
  | .error _ =>
    match tree.newPlace? (path.dropEndWhile (· == '/')).toString with
    | some place =>
      if (tree.lookup place).isSome then (false, tree)
      else (true, tree.put place .directory)
    | none => (false, tree)

/-- Makes a directory and those above it, unless a file stands in the way. -/
def makeDirectory (path : String) (tree : FileTree) : Bool × FileTree :=
  if !isPath path then (false, tree)
  else
    let above := (components path).dropLast
    let paths :=
      (List.range above.length).map fun count => pathOf (above.take (count + 1))
    (paths ++ [path]).foldl (fun (made, tree) path =>
      if made then tree.makeOneDirectory path else (false, tree)) (true, tree)

/-- Removes a file. -/
def remove (path : String) (tree : FileTree) : Bool × FileTree :=
  match tree.resolve path with
  | .ok place =>
    match tree.lookup place with
    | some (.file _) =>
      let kept :=
        tree.entries.entries.filter fun entry => entry.1 ≠ pathOf place
      (true, ⟨OrderedMap.ofList kept⟩)
    | _ => (false, tree)
  | .error _ => (false, tree)

/-- Renames a file, unless there is none or the new name is that of a
directory. -/
def rename (source target : String) (tree : FileTree) : Bool × FileTree :=
  match tree.read source with
  | .content text =>
    match tree.write target text with
    | (true, written) =>
      if tree.newPlace? source = tree.newPlace? target then (true, written)
      else (true, (written.remove source).2)
    | (false, _) => (false, tree)
  | _ => (false, tree)

/-- Writes a file, making the directories above it. -/
def writeWithParents (path text : String) (tree : FileTree) : Bool × FileTree :=
  let (made, tree) := tree.makeDirectory (pathOf (components path).dropLast)
  if made then tree.write path text else (false, tree)

/-- The paths of all files below a directory, relative to it, in order. -/
def filesBelow (tree : FileTree) (directory : String) : List String :=
  let above := components directory
  sortedKeys (tree.entries.entries.filterMap fun (path, entry) =>
    let parts := components path
    match entry with
    | .file _ =>
      if above.isPrefixOf parts then some (pathOf (parts.drop above.length))
      else none
    | .directory => none)

/-- The operations on a tree. -/
def fileSystem : FileSystem (StateM FileTree) where
  read path := do return (← get).read path
  write := write
  makeDirectory := makeDirectory
  rename := rename

end FileTree

end ClusterTick
