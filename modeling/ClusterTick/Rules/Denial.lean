import ClusterTick.Model.Identifier

/-!
# Denials

The reasons for which a rule turns a task down, and their wording, which users
read in the task's message.
-/

namespace ClusterTick

/-- Why a rule turns a task down. -/
inductive Denial where
  /-- The task does not fit beside what is held already. -/
  | overQuota (held requested ceiling : UInt32)
  /-- A running task no longer fits a lowered quota. -/
  | quotaTightened (held requested ceiling : UInt32)
  /-- The chain has a later attempt. -/
  | superseded (newer : TaskId)
  /-- A node of the task is held by another task. -/
  | doubleBooked (node : NodeName) (holder : TaskId)
  /-- The snapshot has no row for the user. -/
  | unknownUser
  | notChainHead
  | noNodesRequested
  /-- Another attempt of the chain holds nodes. -/
  | chainAlreadyRunning (running : TaskId)
  /-- The rule has not judged the task. -/
  | notEvaluated
  deriving DecidableEq, Repr, Inhabited

namespace Denial

/-- A number of nodes in digits. -/
def countText (count : UInt32) : String :=
  String.ofList (decimalDigits count.toNat)

/-- The reason in words. -/
def message : Denial → String
  | overQuota held requested ceiling =>
    "over quota: holding " ++ countText held ++ " of " ++ countText ceiling ++
      " nodes, requesting " ++ countText requested
  | quotaTightened held requested ceiling =>
    "quota reduced to " ++ countText ceiling ++ " nodes; " ++ countText held ++
      " held by higher-ranked tasks, this task holds " ++ countText requested
  | superseded newer => "superseded by task " ++ newer.text
  | doubleBooked node holder =>
    "node " ++ node.text ++ " is already held by task " ++ holder.text
  | unknownUser => "user not found"
  | notChainHead => "not the latest attempt of its chain"
  | noNodesRequested => "requests no nodes"
  | chainAlreadyRunning running =>
    "chain still running as task " ++ running.text
  | notEvaluated => "not evaluated"

/-- The name of the reason and what it speaks of. -/
def members : Denial → List (String × Json)
  | overQuota held requested ceiling =>
    amounts "OverQuota" held requested ceiling
  | quotaTightened held requested ceiling =>
    amounts "QuotaTightened" held requested ceiling
  | superseded newer =>
    [("kind", .string "Superseded"), ("by", JsonForm.toJson newer)]
  | doubleBooked node holder => [("kind", .string "DoubleBooked"),
    ("node", JsonForm.toJson node), ("holder", JsonForm.toJson holder)]
  | unknownUser => [("kind", .string "UnknownUser")]
  | notChainHead => [("kind", .string "NotChainHead")]
  | noNodesRequested => [("kind", .string "NoNodesRequested")]
  | chainAlreadyRunning running =>
    [("kind", .string "ChainAlreadyRunning"),
      ("running", JsonForm.toJson running)]
  | notEvaluated => [("kind", .string "NotEvaluated")]
where
  amounts (kind : String) (held requested ceiling : UInt32) :
      List (String × Json) :=
    [("kind", .string kind), ("held", JsonForm.toJson held),
      ("requested", JsonForm.toJson requested),
      ("ceiling", JsonForm.toJson ceiling)]

/-- The wording goes with the reason when it is written, and is not needed to
read it. -/
instance : JsonForm Denial where
  toJson denial :=
    .object (denial.members ++ [("message", .string denial.message)])
  ofJson? json := do
    let field {α : Type} [JsonForm α] (name : String) : Option α :=
      (json.member? name).bind JsonForm.ofJson?
    let kind : String ← field "kind"
    match kind with
    | "OverQuota" =>
      return overQuota (← field "held") (← field "requested")
        (← field "ceiling")
    | "QuotaTightened" =>
      return quotaTightened (← field "held") (← field "requested")
        (← field "ceiling")
    | "Superseded" => return superseded (← field "by")
    | "DoubleBooked" => return doubleBooked (← field "node") (← field "holder")
    | "UnknownUser" => return unknownUser
    | "NotChainHead" => return notChainHead
    | "NoNodesRequested" => return noNodesRequested
    | "ChainAlreadyRunning" => return chainAlreadyRunning (← field "running")
    | "NotEvaluated" => return notEvaluated
    | _ => none

end Denial

/-- The answer of a rule for one task. -/
inductive Check where
  | approved
  | denied (denial : Denial)
  deriving DecidableEq, Repr, Inhabited

namespace Check

def passes : Check → Bool
  | approved => true
  | denied _ => false

/-- The first denial of two answers in turn. -/
def andThen (first second : Check) : Check :=
  match first with
  | approved => second
  | denied denial => denied denial

end Check

end ClusterTick
