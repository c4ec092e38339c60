import ClusterTick.Replay.Session
import ClusterTick.Worker.Settings

/-!
# The replay tool

The command line on real files and a real clock: `gen` writes a generated
snapshot, `run` runs one tick over a stored snapshot, and `perf` times the
stages of a tick.
-/

namespace ClusterTick.Main

/-- The time, as a new file shows it. -/
def now : IO Instant := do
  let (_, path) ← IO.FS.createTempFile
  let time := (← path.metadata).modified
  IO.FS.removeFile path
  return ⟨time.sec * Span.perSecond + time.nsec.toNat⟩

/-- Whether an action succeeds. -/
def succeeds (action : IO Unit) : IO Bool := do
  try
    action
    return true
  catch _ =>
    return false

/-- The files of the machine. -/
def diskFiles : FileSystem IO where
  read path := do
    try
      return .content (← IO.FS.readFile path)
    catch
      | .noFileOrDirectory .. => return .missing
      | _ => return .failed
  write path text := succeeds (IO.FS.writeFile path text)
  makeDirectory path := succeeds (IO.FS.createDirAll path)
  rename source target := succeeds (IO.FS.rename source target)

/-- A value and the time that it took to find it. -/
def timed {α : Type} (work : Unit → α) : IO (α × Span) := do
  let start ← IO.monoNanosNow
  let value ← IO.lazyPure work
  let stop ← IO.monoNanosNow
  return (value, ⟨stop - start⟩)

/-- The time that the stages of one tick take. -/
def timeTick (snapshot : Snapshot) (config : EngineConfig) :
    IO StageProfile := do
  let (set, preAssign) ← timed fun _ => Tick.workingSet snapshot config
  let (entitled, withinLimits) ←
    timed fun _ => ClusterTick.withinLimits set set.groupSize
  let (keepers, running) ← timed fun _ => mayKeepRunning set set.groupSize
  let (starters, waiting) ← timed fun _ => mayStart set
  let prepared : Prepared := ⟨set, ⟨entitled, keepers, starters⟩⟩
  let (_, matching) ← timed fun _ =>
    Tick.trainingOutcomes prepared (Tick.validationPhase prepared)
  return { preAssign, withinLimits, running, waiting, matching }

/-- The time that the stages of a number of ticks take together. -/
def timeStages (snapshot : Snapshot) (config : EngineConfig)
    (repeats : UInt32) : IO StageProfile := do
  let mut spent : StageProfile := {}
  for _ in [0:repeats.toNat] do
    spent := spent + (← timeTick snapshot config)
  return spent

def usage : String :=
  "Usage: tick-replay [--format table|json] [--default-group GROUP] COMMAND\n" ++
    "\n" ++ "Commands:\n" ++
    "  gen   --out DIR [--users N] [--tasks-per-user N] [--nodes N] [--seed N]" ++
    " [--queued-ratio R]\n" ++
    "  run   DIR [--dry-run] [--out DIR] [--all]\n" ++
    "  perf  DIR [--repeats N] [--dry-run]\n"

/-- What is wrong with the arguments, in words. -/
def usageMessage : Replay.UsageFault → String
  | .helpRequested => ""
  | .versionRequested => ""
  | .nothingGiven => ""
  | .missingSubcommand => "a command is required"
  | .unknownSubcommand => "unrecognized command"
  | .unknownArgument => "unexpected argument"
  | .missingArgument => "a required argument is missing"
  | .missingValue => "a value is required"
  | .unexpectedValue => "a flag takes no value"
  | .malformedValue => "invalid value"
  | .repeatedArgument => "an argument cannot be used twice"

/-- Says why no command is run. -/
def explain (fault : Replay.UsageFault) : IO Unit :=
  match fault with
  | .helpRequested => IO.print usage
  | .versionRequested => IO.println "tick-replay 0.1.0"
  | .nothingGiven => IO.eprint usage
  | _ => IO.eprint ("error: " ++ usageMessage fault ++ "\n\n" ++ usage)

/-- Runs the tool and returns its exit code. -/
def runTool (arguments : List String) : IO UInt32 := do
  let variableGroup ← IO.getEnv Settings.defaultGroupVariable
  match Replay.Invocation.ofArguments variableGroup arguments with
  | .error fault =>
    explain fault
    return UInt32.ofNat fault.exitCode
  | .ok invocation =>
    let outcome ← invocation.run ⟨diskFiles, now, timeStages⟩
    IO.print outcome.output
    IO.eprint outcome.errors
    return UInt32.ofNat outcome.exitCode

end ClusterTick.Main

def main (arguments : List String) : IO UInt32 :=
  ClusterTick.Main.runTool arguments
