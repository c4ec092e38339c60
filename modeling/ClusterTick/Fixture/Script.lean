import ClusterTick.Fixture.Scenario

/-!
# Scenarios from scripts

A script tells step by step how a hand-made snapshot is put together.  A step is
a list: a word and what it needs.
-/

namespace ClusterTick

/-- One step of a scenario. -/
inductive ScenarioStep where
  | setSeq (seq : SnapshotSeq)
  | invalidate
  | chooseGroup (group : GroupName)
  | addReadyNode (name : NodeName) (room : String)
  | addReadyNodes (stem : String) (count : UInt64) (room : String)
  | addNode (node : Node)
  | addQuotaHolder (name : UserName) (amount : Int64)
  | addUser (user : User)
  | addQueued (id : TaskId) (userName : UserName) (priority : Int32)
      (nodes : UInt32)
  | addScheduled (id : TaskId) (userName : UserName) (priority : Int32)
      (assigned : List NodeName)
  | addTask (task : Task)
  /-- Changes the priority of the task that was added last. -/
  | setLastPriority (priority : Int32)
  deriving DecidableEq, Repr

/-- Why a step cannot be read. -/
inductive ScriptFault where
  | unknownStep
  | malformedStep
  deriving DecidableEq, Repr

namespace ScenarioStep

/-- The scenario after a step. -/
def apply (scenario : Scenario) : ScenarioStep → Scenario
  | setSeq seq => { scenario with seq }
  | invalidate => { scenario with valid := false }
  | chooseGroup group => { scenario with group }
  | addReadyNode name room => scenario.addReadyNode name room
  | addReadyNodes stem count room =>
    scenario.addReadyNodes stem count.toNat room
  | addNode node => scenario.addNode node
  | addQuotaHolder name amount => scenario.addQuotaHolder name amount
  | addUser user => scenario.addUser user
  | addQueued id userName priority nodes =>
    scenario.addQueued id userName priority nodes
  | addScheduled id userName priority assigned =>
    scenario.addScheduled id userName priority assigned
  | addTask task => scenario.addTask task
  | setLastPriority priority =>
    scenario.changeLastTask fun task => { task with priority }

/-- Reads what a step needs. -/
def argument {α : Type} [JsonForm α] (arguments : List Json) (index : Nat) :
    Except ScriptFault α :=
  match (arguments[index]?).bind JsonForm.ofJson? with
  | some value => .ok value
  | none => .error .malformedStep

/-- Reads a step. -/
def ofJson : Json → Except ScriptFault ScenarioStep
  | .array (.string word :: given) =>
    let need {α : Type} [JsonForm α] (index : Nat) : Except ScriptFault α :=
      argument given index
    match word with
    | "seq" => return setSeq (← need 0)
    | "invalid" => return invalidate
    | "group" => return chooseGroup (← need 0)
    | "node" => return addReadyNode (← need 0) (← need 1)
    | "nodes" => return addReadyNodes (← need 0) (← need 1) (← need 2)
    | "node_record" => return addNode (← need 0)
    | "user" => return addQuotaHolder (← need 0) (← need 1)
    | "user_record" => return addUser (← need 0)
    | "queued" => return addQueued (← need 0) (← need 1) (← need 2) (← need 3)
    | "scheduled" =>
      return addScheduled (← need 0) (← need 1) (← need 2) (← need 3)
    | "task" => return addTask (← need 0)
    | "last_priority" => return setLastPriority (← need 0)
    | _ => .error .unknownStep
  | _ => .error .unknownStep

end ScenarioStep

/-- The scenario that a script describes. -/
def Scenario.ofScript (script : List Json) : Except ScriptFault Scenario :=
  script.foldlM
    (fun scenario json => return (← ScenarioStep.ofJson json).apply scenario) {}

end ClusterTick
