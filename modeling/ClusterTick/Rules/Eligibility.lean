import ClusterTick.Rules.QuotaAdmission

/-!
# Eligibility

Two rules beside the quota.  `mayKeepRunning` judges the scheduled tasks: a task
loses its nodes to a later attempt of its chain, to an earlier holder of one of
its nodes, or to a quota that the scheduled tasks alone exceed.  `mayStart`
judges the queued ones.  `Verdicts.evaluate` asks all three rules.
-/

namespace ClusterTick

/-- The answers of all rules. -/
structure Verdicts where
  withinLimits : RuleVerdict
  running : RuleVerdict
  waiting : RuleVerdict
  deriving DecidableEq, Repr, Inhabited

/-- The answer of the walk over scheduled tasks, for a task that runs
already. -/
def tightened : Check → Check
  | .denied (.overQuota held requested ceiling) =>
    .denied (.quotaTightened held requested ceiling)
  | check => check

/-- Whether a scheduled task keeps its nodes. -/
def keepRunningCheck (set : WorkingSet) (entitled : RuleVerdict)
    (prepared : PreparedTask) : Check :=
  let conflict :=
    match set.conflicts.get? prepared.id with
    | some conflict => .denied (.doubleBooked conflict.node conflict.holder)
    | none => tightened (entitled.check prepared.id)
  if prepared.isChainHead then
    conflict
  else
    match set.chainHeads.get? prepared.task.chainId with
    | some head => .denied (.superseded head)
    | none => conflict

/-- Which scheduled tasks keep their nodes. -/
def mayKeepRunning (set : WorkingSet) (sizes : PartitionSizes) : RuleVerdict :=
  let entitled := QuotaAdmission.walk set sizes .scheduled
  RuleVerdict.ofChecks
    ((set.tasks.filter (·.task.isScheduled)).map fun prepared =>
      (prepared.id, keepRunningCheck set entitled prepared))

/-- The attempt of a chain that holds nodes, the last one in the order of the
snapshot. -/
def runningAttempt? (set : WorkingSet) (chain : ChainId) : Option TaskId :=
  (set.tasks.reverse.find? fun prepared =>
      prepared.task.isScheduled ∧ prepared.task.chainId = chain).map
    PreparedTask.id

/-- Whether a queued task may be started. -/
def startCheck (set : WorkingSet) (prepared : PreparedTask) : Check :=
  if !prepared.isChainHead then .denied .notChainHead
  else if !set.users.contains prepared.task.userName then .denied .unknownUser
  else if prepared.task.nodes = 0 then .denied .noNodesRequested
  else
    match runningAttempt? set prepared.task.chainId with
    | some running => .denied (.chainAlreadyRunning running)
    | none => .approved

/-- Which queued tasks may be started. -/
def mayStart (set : WorkingSet) : RuleVerdict :=
  RuleVerdict.ofChecks ((set.tasks.filter (·.task.isQueued)).map fun prepared =>
    (prepared.id, startCheck set prepared))

namespace Verdicts

/-- The answers for one task. -/
def forTask (verdicts : Verdicts) (id : TaskId) : TaskVerdict :=
  ⟨verdicts.withinLimits.check id, verdicts.running.check id,
    verdicts.waiting.check id⟩

/-- The verdicts under given sizes of the groups. -/
def under (set : WorkingSet) (sizes : PartitionSizes) : Verdicts :=
  ⟨ClusterTick.withinLimits set sizes, mayKeepRunning set sizes, mayStart set⟩

/-- The verdicts under the sizes that the groups have. -/
def evaluate (set : WorkingSet) : Verdicts := under set set.groupSize

end Verdicts

end ClusterTick
