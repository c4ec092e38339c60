import ClusterTick.Model.Snapshot

/-!
# Changes between ticks

What happens to a cluster from outside between two ticks: time passes, rows are
added or replaced, tasks come to their end.
-/

namespace ClusterTick

/-- A change of a snapshot. -/
inductive Change where
  /-- Time passes for every running task. -/
  | age (seconds : UInt64)
  | putTask (task : Task)
  | putNode (node : Node)
  | putUser (user : User)
  /-- A task ends and gives its nodes back. -/
  | finish (id : TaskId)
  | setValid (valid : Bool)
  deriving DecidableEq, Repr

namespace Change

/-- Puts a row in the place of the first one with the same key, or at the
end. -/
def replaceFirst {α κ : Type} [DecidableEq κ] (key : α → κ) (row : α) :
    List α → List α
  | [] => [row]
  | other :: rest =>
    if key other = key row then row :: rest
    else other :: replaceFirst key row rest

/-- The snapshot after a change. -/
def apply (snapshot : Snapshot) : Change → Snapshot
  | age seconds => { snapshot with tasks := snapshot.tasks.map fun task =>
      if task.isScheduled then
        { task with runningSeconds := task.runningSeconds + seconds }
      else task }
  | putTask task =>
    { snapshot with tasks := replaceFirst Task.id task snapshot.tasks }
  | putNode node =>
    { snapshot with nodes := replaceFirst Node.name node snapshot.nodes }
  | putUser user =>
    { snapshot with users := replaceFirst User.userName user snapshot.users }
  | finish id =>
    { snapshot with
      tasks :=
        snapshot.tasks.map fun task =>
          if task.id = id then
            { task with queueStatus := .finished, assignedNodes := [] }
          else
            task }
  | setValid valid => { snapshot with valid }

end Change

end ClusterTick
