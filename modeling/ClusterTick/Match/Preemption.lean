import ClusterTick.Match.State

/-!
# Preemption

Making room for a waiting task by suspending running tasks of strictly lower
priority.  Victims are gathered in order, the least urgent and most recently
placed first, until the task fits; then every victim is spared, from the last
one on, whose nodes turn out not to be needed.  If all eligible tasks together
do not make enough room, nobody is suspended.
-/

namespace ClusterTick.MatchState

/-- The order in which holders are considered as victims. -/
def compareVictims (left right : Holder) : Ordering :=
  ((compare left.priority right.priority).then
      (compare left.runningSeconds right.runningSeconds)).then
    (compare right.id left.id)

/-- The holders below a priority, in the order in which they are considered. -/
def eligible (state : MatchState) (priority : Int32) : List Holder :=
  (state.holders.filter fun holder =>
      holder.priority < priority).mergeSort fun left right =>
    (compareVictims left right).isLE

/-- How many of the names that a holder lists would become free. -/
def usableNodes (state : MatchState) (holder : Holder) : Nat :=
  (holder.nodes.filter fun name =>
    state.pool.any fun place =>
      place.node.name = name ∧ place.node.working = some holder.id ∧
        place.node.isReady).length

/-- Takes holders with usable nodes until the needed number is available.
Returns the number that is available then, and the holders taken with their
usable nodes. -/
def gather (state : MatchState) (needed : Nat) :
    (available : Nat) → List Holder → Nat × List (TaskId × Nat)
  | available, [] => (available, [])
  | available, holder :: rest =>
    if needed ≤ available then (available, [])
    else
      let usable := state.usableNodes holder
      if usable = 0 then gather state needed available rest
      else
        let (total, taken) := gather state needed (available + usable) rest
        (total, (holder.id, usable) :: taken)

/-- The victims that are left when, from the last one on, every victim is spared
that the needed number can do without. -/
def spare (needed : Nat) (available : Nat) (taken : List (TaskId × Nat)) :
    Nat × List TaskId :=
  taken.foldr (fun (id, usable) (available, victims) =>
    if needed ≤ available - usable then (available - usable, victims)
    else (available, id :: victims)) (available, [])

/-- The tasks to suspend so that a task of a priority gets the needed number of
nodes; `none` if that cannot be done. -/
def victims? (state : MatchState) (priority : Int32) (needed : Nat) :
    Option (List TaskId) :=
  let (available, taken) :=
    state.gather needed state.freeCount (state.eligible priority)
  if available < needed then none else some (spare needed available taken).2

/-- Applies a change to the last row of a task. -/
def changeLast (id : TaskId) (change : Task → Task) : List Task → List Task
  | [] => []
  | task :: rest =>
    if task.id = id ∧ !rest.any (fun later => later.id = id) then
      change task :: rest
    else task :: changeLast id change rest

/-- The decision on a preempted task. -/
def markPreempted (preemptor : TaskId) (task : Task) : Task :=
  { task with
    processResult := .suspend
    schedulerResult := .cannotRun
    schedulerMessage := "preempted by task " ++ preemptor.text }

/-- Suspends one holder.  Returns the state and the names of the nodes that were
opened. -/
def preemptOne (state : MatchState) (preemptor victim : TaskId) :
    MatchState × List NodeName :=
  match state.holders.find? fun holder => holder.id = victim with
  | none => (state, [])
  | some holder =>
    let released := state.release holder.id holder.nodes
    ({ released with
        holders := state.holders.eraseP fun other => other.id = victim
        decisions :=
          changeLast victim (markPreempted preemptor) state.decisions },
        state.releasable holder.id holder.nodes)

/-- Suspends the victims one after the other. -/
def preempt (state : MatchState) (preemptor : TaskId) :
    List TaskId → MatchState × List NodeName
  | [] => (state, [])
  | victim :: rest =>
    let (first, freed) := state.preemptOne preemptor victim
    let (last, freedLater) := first.preempt preemptor rest
    (last, freed ++ freedLater)

end ClusterTick.MatchState
