import ClusterTick.Proofs.Match.Walk
import ClusterTick.Tick.WorkingSet

/-!
# Columns that matching does not look at

A disguise changes task rows in columns that nothing is decided by: the priority
that a row names, as against the one that counts, and the verdict of an earlier
tick.  A pass over disguised rows takes every turn as the pass over the rows
themselves does, and its decisions are theirs in disguise.
-/

namespace ClusterTick

/-- What matching reads of a row. -/
def Task.outline (task : Task) : Task :=
  { task with
    priority := 0
    schedulerResult := .notSure
    processResult := .notSure
    schedulerMessage := "" }

/-- A change of rows that leaves their outline.  A decision on a changed row is
the decision on the row itself, changed as decided rows are. -/
structure Disguise where
  change : Task → Task
  decided : Task → Task
  outline : ∀ task, (change task).outline = task.outline
  id_decided : ∀ row, (decided row).id = row.id
  withDecision : ∀ task decision admission message,
    (change task).withDecision decision admission message =
      decided (task.withDecision decision admission message)
  place : ∀ task chosen,
    { change task with assignedNodes := chosen, runningSeconds := 0 } =
      change { task with assignedNodes := chosen, runningSeconds := 0 }
  preempted : ∀ preemptor row,
    MatchState.markPreempted preemptor (decided row) =
      decided (MatchState.markPreempted preemptor row)
  normalize : ∀ defaultGroup task,
    WorkingSet.normalizeTask defaultGroup (change task) =
      change (WorkingSet.normalizeTask defaultGroup task)

namespace Disguise

variable (disguise : Disguise)

/-- Whatever is read of the outline is the same in disguise. -/
theorem read_change {α : Type} (read : Task → α)
    (hread : ∀ task, read task.outline = read task) (task : Task) :
    read (disguise.change task) = read task := by
  rw [← hread, disguise.outline, hread]

@[simp]
theorem id_change (task : Task) : (disguise.change task).id = task.id :=
  disguise.read_change Task.id (fun _ => rfl) task

@[simp]
theorem chainId_change (task : Task) :
    (disguise.change task).chainId = task.chainId :=
  disguise.read_change Task.chainId (fun _ => rfl) task

@[simp]
theorem userName_change (task : Task) :
    (disguise.change task).userName = task.userName :=
  disguise.read_change Task.userName (fun _ => rfl) task

@[simp]
theorem group_change (task : Task) :
    (disguise.change task).group = task.group :=
  disguise.read_change Task.group (fun _ => rfl) task

@[simp]
theorem customRank_change (task : Task) :
    (disguise.change task).customRank = task.customRank :=
  disguise.read_change Task.customRank (fun _ => rfl) task

@[simp]
theorem nodes_change (task : Task) :
    (disguise.change task).nodes = task.nodes :=
  disguise.read_change Task.nodes (fun _ => rfl) task

@[simp]
theorem assignedNodes_change (task : Task) :
    (disguise.change task).assignedNodes = task.assignedNodes :=
  disguise.read_change Task.assignedNodes (fun _ => rfl) task

@[simp]
theorem createdSeconds_change (task : Task) :
    (disguise.change task).createdSeconds = task.createdSeconds :=
  disguise.read_change Task.createdSeconds (fun _ => rfl) task

@[simp]
theorem runningSeconds_change (task : Task) :
    (disguise.change task).runningSeconds = task.runningSeconds :=
  disguise.read_change Task.runningSeconds (fun _ => rfl) task

@[simp]
theorem isQueued_change (task : Task) :
    (disguise.change task).isQueued = task.isQueued :=
  disguise.read_change Task.isQueued (fun _ => rfl) task

@[simp]
theorem isScheduled_change (task : Task) :
    (disguise.change task).isScheduled = task.isScheduled :=
  disguise.read_change Task.isScheduled (fun _ => rfl) task

@[simp]
theorem isFinished_change (task : Task) :
    (disguise.change task).isFinished = task.isFinished :=
  disguise.read_change Task.isFinished (fun _ => rfl) task

@[simp]
theorem includes_change (pass : MatchPass) (task : Task) :
    pass.includes (disguise.change task) = pass.includes task := by
  cases pass <;> exact disguise.read_change _ (fun _ => rfl) task

/-- A task in disguise keeps the columns that are derived for it. -/
def prepared (task : PreparedTask) : PreparedTask :=
  { task with task := disguise.change task.task }

@[simp]
theorem id_prepared (task : PreparedTask) :
    (disguise.prepared task).id = task.id :=
  disguise.id_change task.task

@[simp]
theorem task_prepared (task : PreparedTask) :
    (disguise.prepared task).task = disguise.change task.task := rfl

@[simp]
theorem group_prepared (task : PreparedTask) :
    (disguise.prepared task).group = task.group :=
  disguise.group_change task.task

@[simp]
theorem isMatchable_prepared (task : PreparedTask) :
    (disguise.prepared task).isMatchable = task.isMatchable := by
  simp only [PreparedTask.isMatchable, task_prepared, isScheduled_change,
    isQueued_change]
  rfl

theorem compareRank_prepared (left right : PreparedTask) :
    (disguise.prepared left).compareRank (disguise.prepared right) =
      left.compareRank right := by
  simp only [PreparedTask.compareRank, PreparedTask.rankKey, task_prepared,
    customRank_change]
  rfl

def candidate (candidate : Candidate) : Candidate :=
  { candidate with prepared := disguise.prepared candidate.prepared }

/-- A partition whose candidates are in disguise. -/
def partition (partition : Partition) : Partition :=
  { partition with candidates := partition.candidates.map disguise.candidate }

/-- A match whose decisions are in disguise. -/
def state (state : MatchState) : MatchState :=
  { state with decisions := state.decisions.map disguise.decided }

@[simp]
theorem task_candidate (candidate : Candidate) :
    (disguise.candidate candidate).task = disguise.change candidate.task := rfl

@[simp]
theorem admission_candidate (candidate : Candidate) :
    (disguise.candidate candidate).admission = candidate.admission := rfl

@[simp]
theorem id_candidate (candidate : Candidate) :
    (disguise.candidate candidate).id = candidate.id :=
  disguise.id_prepared candidate.prepared

theorem compareQueue_candidate (left right : Candidate) :
    (disguise.candidate left).compareQueue (disguise.candidate right) =
      left.compareQueue right := by
  have hrank :
      (disguise.candidate left).prepared.compareRank
          (disguise.candidate right).prepared =
        left.prepared.compareRank right.prepared :=
    disguise.compareRank_prepared _ _
  simp only [Candidate.compareQueue, hrank, task_candidate,
    createdSeconds_change, id_candidate]

section Turns

/-! ## Every turn -/

variable (matching : MatchState) (current : Candidate) (task : Task)

/-- One more decision on a row in disguise. -/
theorem record_state (decision : Decision) (admission : Admission)
    (message : String) :
    (disguise.state matching).record (disguise.change task) decision admission
        message =
      disguise.state (matching.record task decision admission message) := by
  have hrow : (disguise.change task).withDecision decision admission message =
      disguise.decided (task.withDecision decision admission message) :=
    disguise.withDecision task decision admission message
  simp only [state, MatchState.record, List.map_append, List.map_singleton]
  exact congrArg (fun row => { matching with
    decisions := matching.decisions.map disguise.decided ++ [row] }) hrow

theorem keep_state (task : PreparedTask) (preemptible : Bool) :
    (disguise.state matching).keep (disguise.prepared task) preemptible =
      disguise.state (matching.keep task preemptible) := by
  have hholder : MatchState.holderOf (disguise.prepared task) =
      MatchState.holderOf task := by
    simp [MatchState.holderOf, prepared, PreparedTask.id]
  have hrow : (disguise.change task.task).withDecision .keepRunning .canRun "" =
      disguise.decided (task.task.withDecision .keepRunning .canRun "") :=
    disguise.withDecision _ _ _ _
  simp [MatchState.keep_eq, state, hholder, hrow]

theorem suspend_state (denial : Denial) :
    (disguise.state matching).suspend (disguise.change task) denial =
      disguise.state (matching.suspend task denial) := by
  rw [MatchState.suspend, id_change, assignedNodes_change]
  exact disguise.record_state (matching.release task.id task.assignedNodes) task
    _ _ _

theorem start_state (chosen : List NodeName) :
    (disguise.state matching).start (disguise.change task) chosen =
      disguise.state (matching.start task chosen) := by
  have hplace := disguise.place task chosen
  rw [MatchState.start, hplace, id_change]
  exact disguise.record_state
    { matching with
      pool := matching.pool.map (MatchState.occupyNode task.id chosen) }
    { task with assignedNodes := chosen, runningSeconds := 0 } _ _ _

theorem wait_state : (disguise.state matching).wait (disguise.change task) =
    disguise.state (matching.wait task) := by
  rw [MatchState.wait, nodes_change]
  exact disguise.record_state _ _ _ _ _

theorem settle_state (pass : MatchPass) :
    (disguise.state matching).settle pass (disguise.candidate current) =
      disguise.state (matching.settle pass current) := by
  have hverdict : (disguise.candidate current).verdict = current.verdict := rfl
  rw [MatchState.settle, MatchState.settle, hverdict]
  cases current.verdict.running with
  | approved => exact disguise.keep_state matching current.prepared _
  | denied denial => exact disguise.suspend_state matching current.task denial

theorem screen_state :
    (disguise.state matching).screen (disguise.candidate current) =
      disguise.state (matching.screen current) := by
  have hinfeasible :
      (disguise.state matching).isInfeasible (disguise.change current.task) =
        matching.isInfeasible current.task := by
    simp [MatchState.isInfeasible, state]
  rw [MatchState.screen, task_candidate, hinfeasible, MatchState.screen,
    admission_candidate]
  split
  · rw [MatchState.rejectInfeasible, id_change, nodes_change]
    exact disguise.record_state
      { matching with infeasible := matching.infeasible ++ [current.task.id] }
      current.task _ _ _
  · cases current.admission with
    | approved => rfl
    | denied denial => exact disguise.record_state matching current.task _ _ _

theorem gather_state (needed available : Nat) (holders : List Holder) :
    (disguise.state matching).gather needed available holders =
      matching.gather needed available holders := by
  have husable : ∀ holder, (disguise.state matching).usableNodes holder =
      matching.usableNodes holder := fun _ => rfl
  induction holders generalizing available with
  | nil => rfl
  | cons holder rest ih => simp only [MatchState.gather, husable, ih]

theorem victims?_state (priority : Int32) (needed : Nat) :
    (disguise.state matching).victims? priority needed =
      matching.victims? priority needed := by
  rw [MatchState.victims?, gather_state]
  rfl

private theorem changeLast_decided (victim preemptor : TaskId)
    (rows : List Task) :
    MatchState.changeLast victim (MatchState.markPreempted preemptor)
        (rows.map disguise.decided) =
      (MatchState.changeLast victim (MatchState.markPreempted preemptor)
          rows).map disguise.decided := by
  induction rows with
  | nil => rfl
  | cons row rest ih =>
    simp only [List.map_cons, MatchState.changeLast, disguise.id_decided,
      List.any_map, Function.comp_def, ih, disguise.preempted]
    split <;> rfl

theorem preempt_state (preemptor : TaskId) (victims : List TaskId) :
    (disguise.state matching).preempt preemptor victims =
      (disguise.state (matching.preempt preemptor victims).1,
        (matching.preempt preemptor victims).2) := by
  have hone : ∀ (matching : MatchState) victim,
      (disguise.state matching).preemptOne preemptor victim =
        (disguise.state (matching.preemptOne preemptor victim).1,
          (matching.preemptOne preemptor victim).2) := by
    intro matching victim
    have hholders : (disguise.state matching).holders = matching.holders := rfl
    simp only [MatchState.preemptOne, hholders]
    split
    · rfl
    · simp only [state, changeLast_decided]
      rfl
  induction victims generalizing matching with
  | nil => rfl
  | cons victim rest ih => simp only [MatchState.preempt, hone, ih]

theorem place_state (pass : MatchPass) (valid : Bool) :
    (disguise.state matching).place pass valid (disguise.candidate current) =
      disguise.state (matching.place pass valid current) := by
  have hfree :
      ∀ matching, (disguise.state matching).freeNodes = matching.freeNodes :=
    fun _ => rfl
  have hpriority : (disguise.candidate current).prepared.effectivePriority =
      current.prepared.effectivePriority := rfl
  cases pass with
  | validation =>
    simp only [MatchState.place, MatchState.placeValidation, task_candidate,
      nodes_change, hfree]
    split
    · exact disguise.start_state _ _ _
    · exact disguise.wait_state _ _
  | training =>
    simp only [MatchState.place, MatchState.placeTraining, task_candidate,
      nodes_change, hfree, hpriority, victims?_state, id_candidate,
      preempt_state]
    split
    · exact disguise.start_state _ _ _
    · split
      · exact disguise.wait_state _ _
      · split
        · exact disguise.start_state _ _ _
        · exact disguise.wait_state _ _

end Turns

section Pass

/-! ## A whole pass -/

variable (share : Partition) (pass : MatchPass)

theorem decided_partition :
    (disguise.partition share).decided pass =
      (share.decided pass).map disguise.candidate := by
  have hdecided : ∀ current : Candidate,
      (disguise.candidate current).prepared.isMatchable =
        current.prepared.isMatchable :=
    fun current => disguise.isMatchable_prepared current.prepared
  simp only [Partition.decided, partition, List.filter_map, Function.comp_def,
    task_candidate, includes_change, hdecided]

theorem holding_partition :
    (disguise.partition share).holding pass =
      (share.holding pass).map disguise.candidate := by
  simp only [Partition.holding, decided_partition, List.filter_map,
    Function.comp_def, task_candidate, isScheduled_change]

theorem waiting_partition :
    (disguise.partition share).waiting pass =
      (share.waiting pass).map disguise.candidate := by
  simp only [Partition.waiting, decided_partition, List.filter_map,
    Function.comp_def, task_candidate, isScheduled_change]

theorem settled_partition :
    (disguise.partition share).settled pass =
      disguise.state (share.settled pass) := by
  have hopening : MatchState.ofNodes (disguise.partition share).group
      (disguise.partition share).nodes =
        disguise.state (MatchState.ofNodes share.group share.nodes) := rfl
  rw [Partition.settled, holding_partition, List.foldl_map, hopening,
    Partition.settled]
  apply List.foldl_hom disguise.state
  intro matching current
  exact disguise.settle_state matching current pass

theorem screened_partition :
    (disguise.partition share).screened pass =
      disguise.state (share.screened pass) := by
  rw [Partition.screened, waiting_partition, settled_partition, List.foldl_map,
    Partition.screened]
  exact List.foldl_hom disguise.state disguise.screen_state

theorem queue_partition :
    (disguise.partition share).queue pass =
      (share.queue pass).map disguise.candidate := by
  have hplaceable : ∀ (matching : MatchState) current,
      (disguise.state matching).isPlaceable (disguise.candidate current) =
        matching.isPlaceable current := by
    intro matching current
    simp [MatchState.isPlaceable, MatchState.isInfeasible, state]
  simp only [Partition.queue, waiting_partition, settled_partition,
    List.filter_map, Function.comp_def, hplaceable]
  symm
  apply List.map_mergeSort
  intro left _ right _
  rw [compareQueue_candidate]

/-- What a pass makes of a disguised partition. -/
theorem run_partition :
    (disguise.partition share).run pass =
      { share.run pass with
        tasks := (share.run pass).tasks.map disguise.decided } := by
  have hplaced :
      ((share.queue pass).map disguise.candidate).foldl
          (MatchState.place pass share.valid)
          (disguise.state (share.screened pass)) =
        disguise.state ((share.queue pass).foldl
          (MatchState.place pass share.valid) (share.screened pass)) := by
    rw [List.foldl_map]
    apply List.foldl_hom disguise.state
    intro matching current
    exact disguise.place_state matching current pass share.valid
  rw [Partition.run, queue_partition, screened_partition]
  exact congrArg MatchState.outcome hplaced

end Pass

end Disguise

end ClusterTick
