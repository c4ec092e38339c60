import ClusterTick.Rules.Verdict
import ClusterTick.Tick.WorkingSet

/-!
# Admission against quota

Tasks of one user, group and tier share a ceiling.  They are walked in order,
scheduled ones first, and each is approved while it fits beside what is held
already.  A task that does not fit is turned down and holds nothing, so it does
not stand in the way of a smaller one behind it.
-/

namespace ClusterTick

/-- The sizes of the groups that ceilings are capped by. -/
abbrev PartitionSizes := GroupName → Nat

/-- The tasks that a walk covers. -/
inductive WalkScope where
  /-- What is scheduled: the needs of the present holders. -/
  | scheduled
  /-- What is scheduled, and what is queued after it. -/
  | all
  deriving DecidableEq, Repr

/-- Tasks that share a ceiling. -/
structure QuotaBucket where
  user : UserName
  slot : QuotaSlot
  deriving DecidableEq, Repr, Inhabited

namespace WalkScope

def includes : WalkScope → Task → Bool
  | scheduled, task => task.isScheduled
  | all, task => task.isScheduled || task.isQueued

end WalkScope

namespace QuotaBucket

/-- The bucket of a task. -/
def ofTask (prepared : PreparedTask) : QuotaBucket :=
  ⟨prepared.task.userName, ⟨prepared.group, prepared.tier⟩⟩

end QuotaBucket

namespace QuotaAdmission

/-- A sum that stays at the largest number when it would run over. -/
def saturatingAdd (left right : UInt32) : UInt32 :=
  UInt32.ofNat (min (left.toNat + right.toNat) (UInt32.size - 1))

/-- A count as a number of nodes, at most the largest one. -/
def saturatingCount (count : Nat) : UInt32 :=
  UInt32.ofNat (min count (UInt32.size - 1))

/-- The ceiling of a bucket: the quota, and no more than the user can see or the
group has. -/
def ceiling (view : UserView) (sizes : PartitionSizes) (slot : QuotaSlot) :
    UInt32 :=
  min
    (min (view.quota.ceiling slot.group slot.tier)
      (saturatingCount (view.visibleIn slot.group)))
    (saturatingCount (sizes slot.group))

/-- The order of a walk: scheduled tasks first, then by urgency, then by id. -/
def compareWalk (left right : PreparedTask) : Ordering :=
  ((compare right.task.isScheduled left.task.isScheduled).then
    (left.compareRank right)).then (compare left.id right.id)

/-- Walks the tasks of one bucket with the given number of nodes held. -/
def walkBucket (ceiling : UInt32) :
    (held : UInt32) → List PreparedTask → List (TaskId × Check)
  | _, [] => []
  | held, prepared :: rest =>
    let requested := prepared.task.nodes
    let total := saturatingAdd held requested
    if total ≤ ceiling then
      (prepared.id, .approved) :: walkBucket ceiling total rest
    else
      (prepared.id, .denied (.overQuota held requested ceiling)) ::
        walkBucket ceiling held rest

/-- The tasks that a walk judges: the latest attempts of their chains. -/
def walked (set : WorkingSet) (scope : WalkScope) : List PreparedTask :=
  set.tasks.filter fun prepared =>
    scope.includes prepared.task && prepared.isChainHead

/-- The answers for one bucket of the walked tasks. -/
def bucketChecks (set : WorkingSet) (sizes : PartitionSizes)
    (walked : List PreparedTask) (bucket : QuotaBucket) :
    List (TaskId × Check) :=
  let members :=
    walked.filter fun prepared => QuotaBucket.ofTask prepared = bucket
  match set.users.get? bucket.user with
  | some view =>
    walkBucket (ceiling view sizes bucket.slot) 0
      (members.mergeSort fun left right => (compareWalk left right).isLE)
  | none => members.map fun prepared => (prepared.id, .denied .unknownUser)

/-- The verdict of a walk. -/
def walk (set : WorkingSet) (sizes : PartitionSizes) (scope : WalkScope) :
    RuleVerdict :=
  let walked := walked set scope
  let buckets :=
    (keepFirst (walked.map QuotaBucket.ofTask) fun bucket => bucket).items
  RuleVerdict.ofChecks (buckets.flatMap (bucketChecks set sizes walked))

end QuotaAdmission

/-- Which latest attempts fit the quota of their users. -/
def withinLimits (set : WorkingSet) (sizes : PartitionSizes) : RuleVerdict :=
  QuotaAdmission.walk set sizes .all

end ClusterTick
