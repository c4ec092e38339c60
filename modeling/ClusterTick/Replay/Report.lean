import ClusterTick.Replay.Command
import ClusterTick.Text.Table
import ClusterTick.Tick.Profile

/-!
# Reports

The lines that the commands print when they show their results as text.
-/

namespace ClusterTick.Replay

def natText (value : Nat) : String := String.ofList (decimalDigits value)

def success (message : String) : String := "Success: " ++ message

def info (message : String) : String := "Info: " ++ message

def warning (message : String) : String := "Warning: " ++ message

/-- A table under its header, or a word in place of an empty one. -/
def tableOrNothing (header : List String) (rows : List (List String)) :
    List String :=
  if rows.isEmpty then ["No items found."] else Text.tableLines (header :: rows)

def decisionHeader : List String :=
  ["Task", "User", "Group", "Priority", "Nodes", "Decision", "Assigned",
    "Message"]

/-- The row of a decided task. -/
def decisionRow (task : Task) : List String := [
  task.id.text,
  task.userName.text,
  task.group.text,
  String.ofList (integerText task.priority.toInt),
  natText task.nodes.toNat,
  task.processResult.name,
  if task.assignedNodes.isEmpty then "-"
  else ",".intercalate (task.assignedNodes.map Label.text),
  task.schedulerMessage]

/-- Numbers with their names, two blanks between them. -/
def countLine (counts : List (Nat × String)) : String :=
  "  ".intercalate
    (counts.map fun (count, name) => natText count ++ " " ++ name)

/-- What is worth knowing about an assignment besides its tasks. -/
def summaryLines (assignment : Assignment) : List String :=
  let counts := countLine [
    (assignment.count .startup, "startup"),
    (assignment.count .suspend, "suspend"),
    (assignment.count .keepRunning, "keep running"),
    (assignment.count .notSure, "not sure")]
  let warnings :=
    (if assignment.valid then []
     else ["Snapshot marked invalid: preemption was disabled"]) ++
       (if assignment.infeasible.isEmpty then []
         else
          ["Infeasible tasks: " ++
            ", ".intercalate (assignment.infeasible.map TaskId.text)]) ++
              (if assignment.collisions = 0 then []
                else
                 [natText assignment.collisions.toNat ++ " merge collisions"])
  ("Tick seq " ++ assignment.seq.text ++ "  " ++ counts) ::
    info ("Digest " ++ assignment.digest) :: warnings.map warning

/-- The decisions of an assignment and its summary.  Tasks that keep waiting are
left out unless all are asked for. -/
def assignmentLines (all : Bool) (assignment : Assignment) : List String :=
  let shown :=
    assignment.tasks.filter fun task => all || task.processResult ≠ .notSure
  tableOrNothing decisionHeader (shown.map decisionRow) ++
    "" :: summaryLines assignment

/-- Milliseconds with three places. -/
def millisecondText (span : Span) : String :=
  let microseconds := (span.nanoseconds + 500) / 1000
  natText (microseconds / 1000) ++ "." ++
    String.ofList (paddedDigits 3 (microseconds % 1000))

/-- A profile by its stages. -/
def profileLines (report : ProfileReport) : List String :=
  let stages := report.mean.stages ++ [("total", report.mean.total)]
  let rows := stages.map fun (name, span) => [name, millisecondText span]
  let amounts := ", ".intercalate [
    natText report.nodes ++ " nodes",
    natText report.tasks ++ " tasks",
    natText report.users ++ " users",
    natText report.repeats.toNat ++ " runs"]
  let counts := countLine [
    (report.startup, "startup"),
    (report.suspend, "suspend"),
    (report.keepRunning, "keep running"),
    (report.notSure, "not sure"),
    (report.infeasible, "infeasible")]
  ("Snapshot seq " ++ report.seq.text ++ ": " ++ amounts) ::
    tableOrNothing ["Stage", "Mean (ms)"] rows ++ [counts]

/-- How much was written where. -/
def generatedLine (snapshot : Snapshot) (out : String) : String :=
  success ("Wrote " ++ natText snapshot.nodes.length ++ " nodes, " ++
    natText snapshot.tasks.length ++ " tasks and " ++
    natText snapshot.users.length ++ " users to " ++ out)

/-- The same with the settings of the generator, members in the order of their
names. -/
def generatedJson (config : GeneratorConfig) (snapshot : Snapshot)
    (out : String) : Json :=
  .object [
    ("config", match JsonForm.toJson config with
      | .object members => .object (Json.sortedMembers members)
      | json => json),
    ("nodes", .ofNat snapshot.nodes.length),
    ("out", .string out),
    ("tasks", .ofNat snapshot.tasks.length),
    ("users", .ofNat snapshot.users.length)]

end ClusterTick.Replay
