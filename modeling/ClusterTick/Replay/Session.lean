import ClusterTick.Fixture.Generator
import ClusterTick.Replay.Report
import ClusterTick.Storage.Assignments

/-!
# Running commands

What a command does to the files and what it prints.  A command that fails
prints nothing but its fault.
-/

namespace ClusterTick.Replay

/-- Why a command fails. -/
inductive CommandFault where
  | invalidDefaultGroup (cause : LabelError)
  | ratioOutOfRange
  | unloadable (directory : String) (cause : SnapshotFault)
  | uncommittable (directory : String) (cause : CommitFault)
  | unpublishable (directory : String)
  deriving DecidableEq, Repr

/-- What a command prints and whether it does its work. -/
structure Outcome where
  output : String := ""
  errors : String := ""
  succeeded : Bool
  deriving DecidableEq, Repr, Inhabited

/-- The code that a program ends with. -/
def Outcome.exitCode (outcome : Outcome) : Nat :=
  if outcome.succeeded then 0 else 1

/-- What commands work with besides their arguments. -/
structure Surroundings (m : Type → Type) where
  files : FileSystem m
  now : m Instant
  /-- The time that the stages of a number of ticks take together. -/
  timeStages : Snapshot → EngineConfig → UInt32 → m StageProfile

namespace CommandFault

/-- A fault of a source and what caused it.  Parts that do not fit together are
both. -/
def causes : SnapshotFault → List String
  | .tornRead torn => [(SnapshotFault.tornRead torn).message, torn.message]
  | fault => [fault.message]

/-- The fault in words, from the outermost cause to the innermost. -/
def message : CommandFault → String
  | invalidDefaultGroup cause =>
    "invalid --default-group: " ++ cause.message .group
  | ratioOutOfRange => "--queued-ratio must be between 0 and 1"
  | unloadable directory cause =>
    ": ".intercalate
      (("failed to load snapshot from " ++ directory) :: causes cause)
  | uncommittable directory cause =>
    "failed to commit to " ++ directory ++ ": " ++ cause.message
  | unpublishable directory => "failed to write snapshot to " ++ directory

/-- What to do about a fault. -/
def hint? : CommandFault → Option String
  | unloadable _ (.incomplete _) =>
    some "Run `tick-replay gen --out DIR` to write a snapshot."
  | unloadable _ (.tornRead _) =>
    some
      "The snapshot files come from different generations; rewrite all three."
  | _ => none

/-- The outcome of a command that failed. -/
def outcome (fault : CommandFault) : Outcome where
  errors :=
    "Error: " ++ fault.message ++ "\n" ++
      match fault.hint? with
      | some hint => "\nHint: " ++ hint ++ "\n"
      | none => ""
  succeeded := false

end CommandFault

/-- Lines of text, each with its end. -/
def linesText (lines : List String) : String :=
  String.join (lines.map (· ++ "\n"))

variable {m : Type → Type} [Monad m]

/-- Generates a snapshot and publishes it.  The answer is what to print. -/
def runGenerate (surroundings : Surroundings m) (format : OutputFormat)
    (command : GenerateCommand) : m (Except CommandFault (List String)) := do
  if !command.config.queuedRatio.isShare then
    return .error .ratioOutOfRange
  let snapshot := Generator.generate command.config (← surroundings.now)
  match ← SnapshotDirectory.publish surroundings.files command.out snapshot with
  | .error _ => return .error (.unpublishable command.out)
  | .ok _ =>
    match format with
    | .table => return .ok [generatedLine snapshot command.out]
    | .json =>
      return .ok [(generatedJson command.config snapshot command.out).pretty]

/-- Runs one tick over a stored snapshot and commits it if that is asked for. -/
def runTick (surroundings : Surroundings m) (format : OutputFormat)
    (defaultGroup : GroupName) (command : RunCommand) :
    m (Except CommandFault (List String)) := do
  match ← SnapshotDirectory.latest surroundings.files command.directory with
  | .error fault => return .error (.unloadable command.directory fault)
  | .ok snapshot =>
    let config : EngineConfig := ⟨defaultGroup, command.dryRun⟩
    let assignment :=
      (Tick.schedule snapshot config (← surroundings.now)).assignment
    let shown := match format with
      | .table => assignmentLines command.all assignment
      | .json => [(JsonForm.toJson assignment).pretty]
    match command.out with
    | none => return .ok shown
    | some out =>
      match ← AssignmentDirectory.commit surroundings.files out assignment with
      | .error fault => return .error (.uncommittable out fault)
      | .ok _ =>
        match format with
        | .table => return .ok (shown ++ [success ("Committed to " ++ out)])
        | .json => return .ok shown

/-- Profiles ticks over a stored snapshot. -/
def runProfile (surroundings : Surroundings m) (format : OutputFormat)
    (defaultGroup : GroupName) (command : ProfileCommand) :
    m (Except CommandFault (List String)) := do
  match ← SnapshotDirectory.latest surroundings.files command.directory with
  | .error fault => return .error (.unloadable command.directory fault)
  | .ok snapshot =>
    let config : EngineConfig := ⟨defaultGroup, command.dryRun⟩
    let spent ←
      surroundings.timeStages snapshot config
        (ProfileReport.runs command.repeats)
    let report := ProfileReport.ofRuns snapshot config command.repeats spent
    match format with
    | .table => return .ok (profileLines report)
    | .json => return .ok [report.json.pretty]

/-- Runs a command. -/
def Invocation.run (surroundings : Surroundings m) (invocation : Invocation) :
    m Outcome := do
  match Label.parse .group invocation.defaultGroup with
  | .error cause => return (CommandFault.invalidDefaultGroup cause).outcome
  | .ok defaultGroup =>
    let result ← match invocation.command with
      | .generate command => runGenerate surroundings invocation.format command
      | .run command =>
        runTick surroundings invocation.format defaultGroup command
      | .profile command =>
        runProfile surroundings invocation.format defaultGroup command
    match result with
    | .ok lines => return { output := linesText lines, succeeded := true }
    | .error fault => return fault.outcome

end ClusterTick.Replay
