/-!
# File operations

The four operations on files that storage needs, and changes of a directory as
lists of steps.  A file is first written under a staging name and then renamed,
so a reader sees the old content or the new one and nothing between.
-/

namespace ClusterTick

/-- What reading a file gives. -/
inductive ReadResult where
  | content (text : String)
  /-- There is no such file. -/
  | missing
  /-- There is something that cannot be read. -/
  | failed
  deriving DecidableEq, Repr

/-- Operations on files by path.  The operations that change something answer
whether they did. -/
structure FileSystem (m : Type → Type) where
  read : String → m ReadResult
  /-- Writes a file in a directory that exists. -/
  write : String → String → m Bool
  /-- Makes a directory and those above it. -/
  makeDirectory : String → m Bool
  /-- Renames a file, replacing a file of the new name at once. -/
  rename : String → String → m Bool

/-- One change of the files. -/
inductive FileStep where
  | makeDirectory (path : String)
  | write (path text : String)
  | rename (source target : String)
  deriving DecidableEq, Repr

namespace FileStep

/-- The path to blame when a step fails. -/
def blamed : FileStep → String
  | makeDirectory path => path
  | write path _ => path
  | rename _ target => target

/-- The path of a file in a directory. -/
def join (directory file : String) : String :=
  if directory.isEmpty || directory.endsWith "/" then directory ++ file
  else directory ++ "/" ++ file

/-- The name under which a file is staged. -/
def staging (path : String) : String := path ++ ".tmp"

/-- The steps that replace a file. -/
def replaceFile (path text : String) : List FileStep :=
  [.write (staging path) text, .rename (staging path) path]

variable {m : Type → Type} [Monad m]

/-- Takes one step. -/
def run (files : FileSystem m) : FileStep → m Bool
  | makeDirectory path => files.makeDirectory path
  | write path text => files.write path text
  | rename source target => files.rename source target

/-- Takes steps until one fails; the answer is the path to blame. -/
def runAll (files : FileSystem m) : List FileStep → m (Except String Unit)
  | [] => return .ok ()
  | step :: rest => do
    if ← step.run files then runAll files rest else return .error step.blamed

end FileStep

end ClusterTick
