import ClusterTick.Match.Placement
import ClusterTick.Match.Preemption

/-!
# A pass over a partition

Scheduled tasks are judged first: each keeps its nodes or gives them back.  Then
the queued tasks that the rules admit are placed in the order of the queue.  A
task that finds no room waits, and the walk goes on to the next one, so a large
task does not hold up a small one.  Only training tasks preempt and are
preempted.
-/

namespace ClusterTick.MatchState

/-- A scheduled task keeps its nodes or loses them. -/
def settle (pass : MatchPass) (state : MatchState) (candidate : Candidate) :
    MatchState :=
  match candidate.verdict.running with
  | .approved => state.keep candidate.prepared (pass = .training)
  | .denied denial => state.suspend candidate.task denial

/-- Turns a queued task down if it is too large or not admitted. -/
def screen (state : MatchState) (candidate : Candidate) : MatchState :=
  if state.isInfeasible candidate.task then
    state.rejectInfeasible candidate.task
  else
    match candidate.admission with
    | .approved => state
    | .denied denial => state.holdBack candidate.task denial

/-- Whether a queued task is placed if there is room. -/
def isPlaceable (state : MatchState) (candidate : Candidate) : Bool :=
  !state.isInfeasible candidate.task && candidate.admission.passes

/-- Places a training task: on free nodes, else on nodes that preemption frees
if the partition allows it. -/
def placeTraining (valid : Bool) (state : MatchState) (candidate : Candidate) :
    MatchState :=
  let count := candidate.task.nodes.toNat
  match Placement.selectNodes state.freeNodes [] count with
  | some chosen => state.start candidate.task chosen
  | none =>
    let victims :=
      if valid then state.victims? candidate.prepared.effectivePriority count
      else none
    match victims with
    | none => state.wait candidate.task
    | some victims =>
      let (state, freed) := state.preempt candidate.id victims
      match Placement.selectNodes state.freeNodes freed count with
      | some chosen => state.start candidate.task chosen
      | none => state.wait candidate.task

/-- Places a validation task on the first free nodes by name. -/
def placeValidation (state : MatchState) (candidate : Candidate) : MatchState :=
  match Placement.selectByName state.freeNodes candidate.task.nodes.toNat with
  | some chosen => state.start candidate.task chosen
  | none => state.wait candidate.task

/-- Places one task of the queue. -/
def place (pass : MatchPass) (valid : Bool) (state : MatchState)
    (candidate : Candidate) : MatchState :=
  match pass with
  | .training => state.placeTraining valid candidate
  | .validation => state.placeValidation candidate

end ClusterTick.MatchState

namespace ClusterTick.Partition

/-- The candidates of a partition that a pass decides on. -/
def decided (partition : Partition) (pass : MatchPass) : List Candidate :=
  partition.candidates.filter fun candidate =>
    pass.includes candidate.task && candidate.prepared.isMatchable

/-- The scheduled tasks of a pass. -/
def holding (partition : Partition) (pass : MatchPass) : List Candidate :=
  (partition.decided pass).filter (·.task.isScheduled)

/-- The queued tasks of a pass. -/
def waiting (partition : Partition) (pass : MatchPass) : List Candidate :=
  (partition.decided pass).filter fun candidate => !candidate.task.isScheduled

/-- The state once the scheduled tasks have been judged. -/
def settled (partition : Partition) (pass : MatchPass) : MatchState :=
  (partition.holding pass).foldl (MatchState.settle pass)
    (MatchState.ofNodes partition.group partition.nodes)

/-- The state once the queued tasks that cannot be placed have been turned
down. -/
def screened (partition : Partition) (pass : MatchPass) : MatchState :=
  (partition.waiting pass).foldl MatchState.screen (partition.settled pass)

/-- The queued tasks that are to be placed, in order. -/
def queue (partition : Partition) (pass : MatchPass) : List Candidate :=
  ((partition.waiting pass).filter
    (partition.settled pass).isPlaceable).mergeSort fun left right =>
      (left.compareQueue right).isLE

/-- The decisions of a pass on a partition. -/
def run (partition : Partition) (pass : MatchPass) : MatchOutcome :=
  ((partition.queue pass).foldl (MatchState.place pass partition.valid)
    (partition.screened pass)).outcome

end ClusterTick.Partition
