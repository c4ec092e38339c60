import ClusterTick.Text.Quoted
import ClusterTick.Text.Unsigned
import ClusterTick.Tick.Schedule
import ClusterTick.Worker.Health

/-!
# Settings of the service

The settings that a service reads from environment variables, each with a
value of its own when the variable is not set.
-/

namespace ClusterTick

/-- The settings of a scheduling service. -/
structure Settings where
  logLevel : String
  /-- Where snapshots are read. -/
  snapshotDirectory : String
  /-- Where assignments are written. -/
  outputDirectory : String
  tickInterval : Span
  /-- The matching time beyond which a tick runs over. -/
  sla : Span
  /-- How many recent ticks are watched. -/
  slaWindow : Nat
  engine : EngineConfig
  deriving DecidableEq, Repr, Inhabited

/-- Why settings cannot be read. -/
inductive SettingsError where
  | invalidNumber (name text : String) (cause : Text.UnsignedError)
  | invalidGroup (name text : String) (cause : LabelError)
  deriving DecidableEq, Repr

namespace SettingsError

/-- The fault in words, the cause last. -/
def message : SettingsError → String
  | invalidNumber name text cause =>
    "invalid " ++ name ++ ": " ++ text ++ ": " ++ cause.message
  | invalidGroup name text cause =>
    "invalid " ++ name ++ ": " ++ Text.quotedText text ++ ": " ++
      cause.message .group

end SettingsError

namespace Settings

/-- The time from one tick to the next unless a variable says otherwise. -/
def defaultTickInterval : Span := Span.ofMilliseconds 500

/-- The variable that names the default group. -/
def defaultGroupVariable : String := "FLEET_DEFAULT_GROUP"

/-- A number from a variable, `none` when it is not set. -/
def number? (lookup : String → Option String) (name : String) :
    Except SettingsError (Option Nat) :=
  match lookup name with
  | none => .ok none
  | some text =>
    match Text.readUnsigned (UInt64.size - 1) text with
    | .ok value => .ok (some value)
    | .error cause => .error (.invalidNumber name text cause)

/-- A span of milliseconds from a variable. -/
def milliseconds (lookup : String → Option String) (name : String)
    (fallback : Span) : Except SettingsError Span := do
  match ← number? lookup name with
  | some value => return Span.ofMilliseconds value
  | none => return fallback

/-- The default group from its variable. -/
def defaultGroup (lookup : String → Option String) :
    Except SettingsError GroupName :=
  match lookup defaultGroupVariable with
  | none => .ok ⟨"default"⟩
  | some text =>
    match Label.parse .group text with
    | .ok group => .ok group
    | .error cause => .error (.invalidGroup defaultGroupVariable text cause)

/-- Whether a text switches something on. -/
def isOn (text : String) : Bool := text = "1" || text.toLower = "true"

/-- The settings that a set of variables gives.  The first variable that cannot
be read is reported. -/
def read (lookup : String → Option String) : Except SettingsError Settings := do
  let tickInterval ←
    milliseconds lookup "FLEET_TICK_INTERVAL_MS" defaultTickInterval
  let sla ← milliseconds lookup "FLEET_SLA_MS" SlaWindow.defaultThreshold
  let slaWindow ← number? lookup "FLEET_SLA_WINDOW"
  let defaultGroup ← defaultGroup lookup
  return {
    logLevel := (lookup "FLEET_LOG_LEVEL").getD "info"
    snapshotDirectory :=
      (lookup "FLEET_SNAPSHOT_DIR").getD "/var/lib/fleet/snapshot"
    outputDirectory :=
      (lookup "FLEET_OUTPUT_DIR").getD "/var/lib/fleet/assignments"
    tickInterval
    sla
    slaWindow := slaWindow.getD SlaWindow.defaultCapacity
    engine := { defaultGroup, dryRun := (lookup "FLEET_DRY_RUN").any isOn } }

def json (settings : Settings) : Json :=
  .object [
    ("log_level", .string settings.logLevel),
    ("snapshot_dir", .string settings.snapshotDirectory),
    ("output_dir", .string settings.outputDirectory),
    ("tick_interval", JsonForm.toJson settings.tickInterval),
    ("sla", JsonForm.toJson settings.sla),
    ("sla_window", .ofNat settings.slaWindow),
    ("default_group", JsonForm.toJson settings.engine.defaultGroup),
    ("dry_run", .bool settings.engine.dryRun)]

end Settings

end ClusterTick
