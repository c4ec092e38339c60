import ClusterTick.Fixture.Draws
import ClusterTick.Numeric.RealText
import ClusterTick.Replay.Arguments
import ClusterTick.Text.Unsigned

/-!
# Commands

The three commands of the replay tool and how they are written on the command
line.  Options that all commands share may stand before or behind the name of
the command; the ones behind it count.
-/

namespace ClusterTick.Replay

/-- How results are shown. -/
inductive OutputFormat where
  | table
  | json
  deriving DecidableEq, Repr, Inhabited

/-- Writes a generated snapshot to a directory. -/
structure GenerateCommand where
  config : GeneratorConfig := {}
  out : String := ""
  deriving DecidableEq, Repr, Inhabited

/-- Runs one tick over a stored snapshot. -/
structure RunCommand where
  directory : String := ""
  dryRun : Bool := false
  /-- Where to commit the assignment. -/
  out : Option String := none
  /-- Show the tasks that keep waiting too. -/
  all : Bool := false
  deriving DecidableEq, Repr, Inhabited

/-- Times the stages of a tick over a stored snapshot. -/
structure ProfileCommand where
  directory : String := ""
  repeats : UInt32 := 10
  dryRun : Bool := false
  deriving DecidableEq, Repr, Inhabited

inductive Command where
  | generate (command : GenerateCommand)
  | run (command : RunCommand)
  | profile (command : ProfileCommand)
  deriving DecidableEq, Repr, Inhabited

/-- A command with the options that all commands share. -/
structure Invocation where
  format : OutputFormat
  /-- The default group as it was typed. -/
  defaultGroup : String
  command : Command
  deriving DecidableEq, Repr, Inhabited

/-- The shared options of one level, as far as they are given. -/
structure SharedOptions where
  format : Option String := none
  defaultGroup : Option String := none
  deriving DecidableEq, Repr, Inhabited

/-- The settings of a level: the shared options and those of a command. -/
structure LevelSettings (α : Type) where
  shared : SharedOptions := {}
  command : α
  deriving DecidableEq, Repr, Inhabited

/-- Reads an unsigned integer of at most `limit`. -/
def readCount (limit : Nat) (text : String) : Except UsageFault Nat :=
  (Text.readUnsigned limit text).mapError fun _ => .malformedValue

def readWord (text : String) : Except UsageFault UInt64 :=
  (readCount (UInt64.size - 1) text).map UInt64.ofNat

/-- Reads a number of runs.  A minus sign may stand before zero. -/
def readRepeats (text : String) : Except UsageFault UInt32 :=
  match text.toList with
  | '-' :: '0' :: zeros =>
    if zeros.all (· = '0') then .ok 0 else .error .malformedValue
  | _ => (readCount (UInt32.size - 1) text).map UInt32.ofNat

def readReal (text : String) : Except UsageFault Binary64 :=
  match Binary64.read? text with
  | some value => .ok value
  | none => .error .malformedValue

/-- A path is any text but the empty one. -/
def readPath (text : String) : Except UsageFault String :=
  if text.isEmpty then .error .missingValue else .ok text

/-- An argument of a command. -/
def commandParameter {α β : Type} (name : String)
    (read : String → Except UsageFault β) (store : β → α → α) :
    Parameter (LevelSettings α) where
  name
  store text settings :=
    (read text).map fun value =>
      { settings with command := store value settings.command }

/-- A flag of a command. -/
def commandFlag {α : Type} (name : String) (mark : α → α) :
    String × (LevelSettings α → LevelSettings α) :=
  (name, fun settings => { settings with command := mark settings.command })

/-- The options that all levels understand. -/
def sharedOptions (α : Type) : List (Parameter (LevelSettings α)) := [
  ⟨"format", fun text settings =>
    .ok { settings with shared.format := some text }⟩,
  ⟨"default-group", fun text settings =>
    .ok { settings with shared.defaultGroup := some text }⟩]

def topGrammar : Grammar (LevelSettings Unit) where
  options := sharedOptions Unit
  subcommands := ["gen", "run", "perf", "help"]
  hasVersion := true

def generateGrammar : Grammar (LevelSettings GenerateCommand) where
  options := sharedOptions GenerateCommand ++ [
    commandParameter "users" readWord fun value command =>
      { command with config.userCount := value },
    commandParameter "tasks-per-user" readWord fun value command =>
      { command with config.tasksPerUser := value },
    commandParameter "nodes" readWord fun value command =>
      { command with config.nodeCount := value },
    commandParameter "seed" readWord fun value command =>
      { command with config.seed := value },
    commandParameter "queued-ratio" readReal fun value command =>
      { command with config.queuedRatio := value },
    commandParameter "out" readPath fun value command =>
      { command with out := value }]
  required := ["out"]

def directoryName : String := "directory"

def runGrammar : Grammar (LevelSettings RunCommand) where
  options := sharedOptions RunCommand ++ [
    commandParameter "out" readPath fun value command =>
      { command with out := some value }]
  flags := [
    commandFlag "dry-run" fun command => { command with dryRun := true },
    commandFlag "all" fun command => { command with all := true }]
  bare := some (commandParameter directoryName readPath fun value command =>
    { command with directory := value })
  required := [directoryName]

def profileGrammar : Grammar (LevelSettings ProfileCommand) where
  options := sharedOptions ProfileCommand ++ [
    commandParameter "repeats" readRepeats fun value command =>
      { command with repeats := value }]
  flags :=
    [commandFlag "dry-run" fun command => { command with dryRun := true }]
  bare := some (commandParameter directoryName readPath fun value command =>
    { command with directory := value })
  required := [directoryName]

/-- The arguments behind `help` name a command, or nothing. -/
def helpFault (arguments : List String) : UsageFault :=
  match arguments with
  | [] => .helpRequested
  | [name] =>
    if name ∈ topGrammar.subcommands then .helpRequested else .unknownSubcommand
  | _ => .unknownSubcommand

/-- Reads the arguments of a command. -/
def readCommand {α : Type} (grammar : Grammar (LevelSettings α)) (initial : α)
    (wrap : α → Command) (arguments : List String) :
    Except UsageFault (SharedOptions × Command) :=
  (grammar.readAll { command := initial } arguments).map fun settings =>
    (settings.shared, wrap settings.command)

def readSubcommand (subcommand : Subcommand) :
    Except UsageFault (SharedOptions × Command) :=
  match subcommand.name with
  | "gen" => readCommand generateGrammar {} .generate subcommand.rest
  | "run" => readCommand runGrammar {} .run subcommand.rest
  | "perf" => readCommand profileGrammar {} .profile subcommand.rest
  | _ => .error (helpFault subcommand.rest)

/-- The format of a name; what is not known means a table. -/
def OutputFormat.ofName (name : String) : OutputFormat :=
  if name = "json" then .json else .table

/-- The command that the arguments ask for.  The default group may also come
from a variable. -/
def Invocation.ofArguments (variableGroup : Option String)
    (arguments : List String) : Except UsageFault Invocation := do
  let (scan, subcommand) ←
    Scan.read topGrammar arguments { settings := { command := () } }
  match subcommand with
  | some subcommand =>
    let (shared, command) ← readSubcommand subcommand
    let top := (← scan.settle).settings.shared
    return {
      format := OutputFormat.ofName ((shared.format.or top.format).getD "table")
      defaultGroup :=
        ((shared.defaultGroup.or top.defaultGroup).or variableGroup).getD
          "default"
      command }
  | none =>
    let settled ← scan.settle
    throw (if settled.given.isEmpty ∧ variableGroup.isNone then .nothingGiven
      else .missingSubcommand)

end ClusterTick.Replay
