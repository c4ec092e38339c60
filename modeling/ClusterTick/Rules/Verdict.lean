import ClusterTick.Order.OrderedMap
import ClusterTick.Rules.Denial

/-!
# Verdicts

The answers of one rule for all the tasks that it judges.
-/

namespace ClusterTick

/-- The tasks that a rule approves, and the ones it turns down. -/
structure RuleVerdict where
  approvals : OrderedMap TaskId Unit := OrderedMap.empty
  denials : OrderedMap TaskId Denial := OrderedMap.empty
  deriving DecidableEq, Repr, Inhabited

/-- The answers of all rules for one task. -/
structure TaskVerdict where
  withinLimits : Check
  running : Check
  waiting : Check
  deriving DecidableEq, Repr, Inhabited

namespace RuleVerdict

def approve (verdict : RuleVerdict) (id : TaskId) : RuleVerdict :=
  { verdict with approvals := verdict.approvals.insert id () }

def deny (verdict : RuleVerdict) (id : TaskId) (denial : Denial) :
    RuleVerdict :=
  { verdict with denials := verdict.denials.insert id denial }

/-- The verdict with one more answer. -/
def record (verdict : RuleVerdict) (id : TaskId) : Check → RuleVerdict
  | .approved => verdict.approve id
  | .denied denial => verdict.deny id denial

/-- The verdict that a list of answers makes. -/
def ofChecks (checks : List (TaskId × Check)) : RuleVerdict :=
  checks.foldl (fun verdict (id, check) => verdict.record id check) {}

def approved (verdict : RuleVerdict) : List TaskId := verdict.approvals.keys

def denied (verdict : RuleVerdict) : List (TaskId × Denial) :=
  verdict.denials.entries

def passes (verdict : RuleVerdict) (id : TaskId) : Bool :=
  verdict.approvals.contains id

/-- The answer for a task.  An approval counts before a denial, and a task
without either has not been judged. -/
def check (verdict : RuleVerdict) (id : TaskId) : Check :=
  if verdict.passes id then .approved
  else .denied ((verdict.denials.get? id).getD .notEvaluated)

def size (verdict : RuleVerdict) : Nat :=
  verdict.approvals.size + verdict.denials.size

def isEmpty (verdict : RuleVerdict) : Bool :=
  verdict.approvals.isEmpty && verdict.denials.isEmpty

end RuleVerdict

end ClusterTick
