import ClusterTick.Proofs.Match.State
import ClusterTick.Proofs.Tick.WorkingSet

/-!
# Revised snapshots

What stays the same when the rows of a snapshot change in nothing but what ticks
decide on them: the users with their quota, the sizes of the groups, and what
the tasks are.  The enactment of a tick is such a revision, and so is the
removal of everything that earlier ticks have written on the tasks.
-/

namespace ClusterTick

/-- What a task is, whatever ticks have decided on it. -/
def Task.plan (task : Task) : Task :=
  { task.request with queueStatus := .queued }

section Plan

variable {left right : Task} (hsame : left.plan = right.plan)

include hsame

theorem Task.id_eq_of_plan : left.id = right.id :=
  show left.plan.id = right.plan.id from congrArg Task.id hsame

theorem Task.chainId_eq_of_plan : left.chainId = right.chainId :=
  show left.plan.chainId = right.plan.chainId from congrArg Task.chainId hsame

theorem Task.userName_eq_of_plan : left.userName = right.userName :=
  show left.plan.userName = right.plan.userName from
    congrArg Task.userName hsame

theorem Task.group_eq_of_plan : left.group = right.group :=
  show left.plan.group = right.plan.group from congrArg Task.group hsame

theorem Task.nodes_eq_of_plan : left.nodes = right.nodes :=
  show left.plan.nodes = right.plan.nodes from congrArg Task.nodes hsame

theorem Task.priority_eq_of_plan : left.priority = right.priority :=
  show left.plan.priority = right.plan.priority from
    congrArg Task.priority hsame

end Plan

@[simp]
theorem WorkingSet.id_normalizeTask (defaultGroup : GroupName) (task : Task) :
    (normalizeTask defaultGroup task).id = task.id := rfl

section Ground

/-! ## Users and nodes -/

namespace WorkingSet

/-- The active nodes but for their occupants. -/
theorem vacated_activeNodes (snapshot : Snapshot) (defaultGroup : GroupName) :
    (activeNodes snapshot defaultGroup).map Node.vacated =
      OrderedMap.lastRows Node.name
        (((snapshot.nodes.map Node.vacated).filter Node.active).map
          (normalizeNode defaultGroup)) := by
  have hname : ∀ node : Node, node.vacated.name = node.name := fun _ => rfl
  rw [activeNodes, ← OrderedMap.lastRows_map hname, List.filter_map,
    List.map_map, List.map_map]
  rfl

private theorem countVisible_vacated (nodes : List Node) (group : GroupName) :
    UserView.countVisible (nodes.map Node.vacated) group =
      UserView.countVisible nodes group := by
  rw [UserView.countVisible, List.filter_map, List.length_map]
  rfl

/-- The view of a user depends on the nodes but for their occupants. -/
theorem resolve_congr {left right : List Node}
    (hsame : left.map Node.vacated = right.map Node.vacated)
    (owners : OrderedMap UserName User) (user : User) :
    UserView.resolve left owners user = UserView.resolve right owners user := by
  have hcount : ∀ group,
      UserView.countVisible left group = UserView.countVisible right group := by
    intro group
    rw [← countVisible_vacated, hsame, countVisible_vacated]
  simp only [UserView.resolve, hcount]

end WorkingSet

/-- Two snapshots have the same users and, but for their occupants, the same
nodes. -/
structure Snapshot.SameGround (before after : Snapshot) : Prop where
  users : after.users = before.users
  nodes : after.nodes.map Node.vacated = before.nodes.map Node.vacated

namespace Snapshot.SameGround

variable {before after : Snapshot} (hground : before.SameGround after)

include hground

theorem vacated_activeNodes (defaultGroup : GroupName) :
    (WorkingSet.activeNodes after defaultGroup).map Node.vacated =
      (WorkingSet.activeNodes before defaultGroup).map Node.vacated := by
  rw [WorkingSet.vacated_activeNodes, hground.nodes,
    WorkingSet.vacated_activeNodes]

variable (config : EngineConfig)

theorem vacated_nodes : (Tick.workingSet after config).nodes.map Node.vacated =
    (Tick.workingSet before config).nodes.map Node.vacated := calc
  _ = (WorkingSet.activeNodes after config.defaultGroup).map Node.vacated :=
    WorkingSet.vacated_ofSnapshot_nodes after config.defaultGroup
  _ = (WorkingSet.activeNodes before config.defaultGroup).map Node.vacated :=
    hground.vacated_activeNodes config.defaultGroup
  _ = _ := (WorkingSet.vacated_ofSnapshot_nodes before config.defaultGroup).symm

theorem groupSize_eq :
    (Tick.workingSet after config).groupSize =
      (Tick.workingSet before config).groupSize :=
  WorkingSet.groupSize_congr (hground.vacated_nodes config)

/-- The users have the same quota and see as many nodes. -/
theorem users_eq :
    (Tick.workingSet after config).users =
      (Tick.workingSet before config).users := by
  have hresolve := WorkingSet.resolve_congr (hground.vacated_nodes config)
  simp only [Tick.workingSet, WorkingSet.ofSnapshot] at hresolve ⊢
  simp only [hground.users, hresolve]

end Snapshot.SameGround

end Ground

/-- A change of task rows that leaves what the tasks are. -/
structure Revision where
  change : Task → Task
  plan : ∀ task, (change task).plan = task.plan
  normalize : ∀ defaultGroup task,
    WorkingSet.normalizeTask defaultGroup (change task) =
      change (WorkingSet.normalizeTask defaultGroup task)

namespace Revision

variable (revision : Revision)

/-- The change of a task row with its derived columns. -/
def prepared (task : PreparedTask) : PreparedTask :=
  { task with task := revision.change task.task }

@[simp]
theorem id_change (task : Task) : (revision.change task).id = task.id :=
  Task.id_eq_of_plan (revision.plan task)

@[simp]
theorem id_prepared (task : PreparedTask) :
    (revision.prepared task).id = task.id :=
  revision.id_change task.task

@[simp]
theorem task_prepared (task : PreparedTask) :
    (revision.prepared task).task = revision.change task.task := rfl

@[simp]
theorem isChainHead_prepared (task : PreparedTask) :
    (revision.prepared task).isChainHead = task.isChainHead := rfl

@[simp]
theorem effectivePriority_prepared (task : PreparedTask) :
    (revision.prepared task).effectivePriority = task.effectivePriority := rfl

/-- A task counts against the same bucket before and after. -/
@[simp]
theorem ofTask_prepared (task : PreparedTask) :
    QuotaBucket.ofTask (revision.prepared task) = QuotaBucket.ofTask task := by
  simp only [QuotaBucket.ofTask, PreparedTask.group, PreparedTask.tier,
    task_prepared, effectivePriority_prepared,
    Task.userName_eq_of_plan (revision.plan task.task),
    Task.group_eq_of_plan (revision.plan task.task)]

/-- A change of the raw row and of the normalized row schedule the task
alike. -/
theorem isScheduled_change_normalizeTask (defaultGroup : GroupName)
    (task : Task) :
    (revision.change (WorkingSet.normalizeTask defaultGroup task)).isScheduled =
      (revision.change task).isScheduled := by
  rw [← revision.normalize]
  rfl

theorem assignedNodes_change_normalizeTask (defaultGroup : GroupName)
    (task : Task) :
    (revision.change
        (WorkingSet.normalizeTask defaultGroup task)).assignedNodes =
      (revision.change task).assignedNodes := by
  rw [← revision.normalize]
  rfl

/-- The second snapshot is the first one with the tasks revised, and with other
occupants of its nodes. -/
structure Relates (before after : Snapshot) : Prop where
  valid : after.valid = before.valid
  users : after.users = before.users
  nodes : after.nodes.map Node.vacated = before.nodes.map Node.vacated
  tasks : after.tasks = before.tasks.map revision.change

section Relates

variable {revision : Revision} {before after : Snapshot}

theorem Relates.ground (hrelates : revision.Relates before after) :
    before.SameGround after :=
  ⟨hrelates.users, hrelates.nodes⟩

theorem Relates.distinctTasks (hrelates : revision.Relates before after)
    (defaultGroup : GroupName) : WorkingSet.distinctTasks after defaultGroup =
      (WorkingSet.distinctTasks before defaultGroup).map revision.change := by
  rw [WorkingSet.distinctTasks, hrelates.tasks,
    keepFirst_map revision.id_change, WorkingSet.distinctTasks, List.map_map,
    List.map_map]
  exact List.map_congr_left fun task _ => revision.normalize defaultGroup task

end Relates

end Revision

namespace WorkingSet

/-- Whether a task is the head of its chain depends on who is finished only. -/
theorem isHeadAmong_map {tasks : List Task} {revision : Revision}
    (hfinished : ∀ task ∈ tasks,
      (revision.change task).isFinished = task.isFinished)
    {task : Task} (htask : task ∈ tasks) :
    isHeadAmong (tasks.map revision.change) (revision.change task) =
      isHeadAmong tasks task := by
  have hchain : ∀ task, (revision.change task).chainId = task.chainId :=
    fun task => Task.chainId_eq_of_plan (revision.plan task)
  simp only [isHeadAmong, hfinished task htask, List.all_map, hchain]
  congr 1
  rw [Bool.eq_iff_iff, List.all_eq_true, List.all_eq_true]
  refine forall₂_congr fun other hother => ?_
  simp [hchain, hfinished other hother]

private theorem effectivePriority_change (users : OrderedMap UserName UserView)
    (revision : Revision) (task : Task) :
    effectivePriority users (revision.change task) =
      effectivePriority users task := by
  simp only [effectivePriority, Task.userName_eq_of_plan (revision.plan task),
    Task.priority_eq_of_plan (revision.plan task)]

end WorkingSet

namespace Revision.Relates

variable {revision : Revision} {before after : Snapshot}
variable (hrelates : revision.Relates before after) (config : EngineConfig)

include hrelates

/-- The tasks are revised, and their derived columns stay, as long as nobody is
finished by the revision, or taken up again. -/
theorem tasks_eq
    (hfinished : ∀ task ∈ WorkingSet.distinctTasks before config.defaultGroup,
      (revision.change task).isFinished = task.isFinished) :
    (Tick.workingSet after config).tasks =
      (Tick.workingSet before config).tasks.map revision.prepared := by
  have husers := hrelates.ground.users_eq config
  simp only [Tick.workingSet, WorkingSet.ofSnapshot] at husers ⊢
  rw [husers, hrelates.distinctTasks, List.map_map, List.map_map]
  refine List.map_congr_left fun task htask => ?_
  simp only [Function.comp_apply, Revision.prepared,
    WorkingSet.effectivePriority_change,
    WorkingSet.isHeadAmong_map hfinished htask]

end Revision.Relates

end ClusterTick
