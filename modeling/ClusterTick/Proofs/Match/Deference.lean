import ClusterTick.Proofs.Match.Likeness
import ClusterTick.Proofs.Match.Reach

/-!
# What less urgent tasks leave alone

Two partitions that differ in queued tasks of at most some priority decide alike
on everything above.  Both passes place the same tasks down to that priority.
The tasks that come then suspend only holders below it, so the rows of the
others stay.
-/

namespace ClusterTick

/-- A waiting task of a priority cannot come before this one, and cannot suspend
it. -/
def PreparedTask.Outranks (task : PreparedTask) (priority : Int32) : Prop :=
  task.task.isScheduled = false ∧ priority < task.effectivePriority ∨
    task.task.isScheduled ∧ priority ≤ task.effectivePriority

instance (task : PreparedTask) (priority : Int32) :
    Decidable (task.Outranks priority) :=
  inferInstanceAs (Decidable (_ ∧ _ ∨ _ ∧ _))

/-- Whether a candidate is more urgent than a priority. -/
def Candidate.isAbove (priority : Int32) (candidate : Candidate) : Bool :=
  priority < candidate.prepared.effectivePriority

namespace RowView

@[simp]
theorem mem_filterMap_ofTask_iff {id : TaskId} {rows : List Task} {row : Task} :
    row ∈ rows.filterMap (ofTask id).see ↔ row ∈ rows ∧ row.id = id := by
  rw [List.mem_filterMap]
  constructor
  · rintro ⟨other, hother, hsee⟩
    simp only [ofTask, Option.ite_none_right_eq_some, Option.some.injEq] at hsee
    obtain ⟨hid, rfl⟩ := hsee
    exact ⟨hother, hid⟩
  · rintro ⟨hrow, hid⟩
    exact ⟨row, hrow, by simp [ofTask, hid]⟩

theorem filterMap_ofTask_append {id : TaskId} {rows : List Task} {row : Task}
    (hrow : row.id ≠ id) :
    (rows ++ [row]).filterMap (ofTask id).see =
      rows.filterMap (ofTask id).see := by
  simp [ofTask, hrow]

end RowView

namespace MatchState

variable {pass : MatchPass} {valid : Bool} {state next left right : MatchState}
variable {candidate : Candidate} {id : TaskId}

/-- The row of a task does not show when another one is turned down. -/
theorem alike_screen (hother : candidate.id ≠ id) :
    Alike (RowView.ofTask id) (state.screen candidate) state := by
  have hrow : ∀ message,
      (candidate.task.withDecision .notSure .cannotRun message).id ≠ id :=
    fun _ => hother
  rw [screen]
  split
  · rw [rejectInfeasible_eq]
    exact ⟨rfl, rfl, List.Perm.refl _,
      by rw [RowView.filterMap_ofTask_append (hrow _)]⟩
  · split
    · exact Alike.refl _ state
    · rw [holdBack_eq]
      exact ⟨rfl, rfl, List.Perm.refl _,
        by rw [RowView.filterMap_ofTask_append (hrow _)]⟩

/-- Only the turn of the task itself matters for its row when tasks are turned
down. -/
theorem alike_foldl_screen (halike : Alike (RowView.ofTask id) left right)
    (candidates : List Candidate) :
    Alike (RowView.ofTask id) (candidates.foldl screen left)
      ((candidates.filter fun candidate => candidate.id = id).foldl screen
        right) := by
  induction candidates generalizing left right with
  | nil => exact halike
  | cons candidate rest ih =>
    by_cases hid : candidate.id = id
    · rw [List.filter_cons_of_pos (by simpa using hid), List.foldl_cons,
        List.foldl_cons]
      exact ih (halike.screen (Candidate.Alike.refl _ candidate))
    · rw [List.filter_cons_of_neg (by simpa using hid), List.foldl_cons]
      exact ih ((alike_screen hid).trans halike)

/-- The turn of a queued task leaves the row of another task as it is, unless
that task is a holder below it. -/
theorem Turn.filterMap_ofTask (hturn : Turn pass valid state candidate next)
    (hqueued : candidate.task.isScheduled = false) (hother : candidate.id ≠ id)
    (hholders : ∀ holder ∈ state.holders, holder.id = id →
      candidate.prepared.effectivePriority ≤ holder.priority) :
    next.decisions.filterMap (RowView.ofTask id).see =
      state.decisions.filterMap (RowView.ofTask id).see := by
  have happend : ∀ (rows : List Task) (row : Task), row.id = candidate.id →
      (rows ++ [row]).filterMap (RowView.ofTask id).see =
        rows.filterMap (RowView.ofTask id).see :=
    fun _ _ hrow => RowView.filterMap_ofTask_append (hrow ▸ hother)
  cases hturn with
  | keep hscheduled | suspend hscheduled =>
    rw [hqueued] at hscheduled
    cases hscheduled
  | reject | holdBack | start | wait => exact happend _ _ rfl
  | @preempt victims chosen _ _ _ _ _ hvictims hbelow =>
    have hspared : id ∉ victims.map Holder.id := by
      intro hmem
      obtain ⟨victim, hvictim, hid⟩ := List.mem_map.mp hmem
      exact Int32.not_le.mpr (hbelow victim hvictim)
        (hholders victim (hvictims.subset hvictim) hid)
    have hlast :
        (startedRow (state.dismissAll candidate.id victims).group candidate.task
            chosen).id = candidate.id :=
      rfl
    rw [start_eq, happend _ _ hlast, decisions_dismissAll, List.filterMap_map]
    apply List.filterMap_congr
    intro row _
    simp only [Function.comp_apply]
    split
    case isTrue hvictim =>
      have hrow : row.id ≠ id := fun hid => hspared (hid ▸ hvictim)
      simp [RowView.ofTask, markPreempted, hrow]
    · rfl

end MatchState

namespace Partition

variable {left right : Partition} {pass : MatchPass} {priority : Int32}
  {candidate : Candidate}

/-- Two partitions with the same nodes, the same scheduled tasks, and the same
queued tasks above a priority. -/
structure AgreesAbove (pass : MatchPass) (priority : Int32)
    (left right : Partition) : Prop where
  group : left.group = right.group
  valid : left.valid = right.valid
  nodes : left.nodes = right.nodes
  holding : left.holding pass = right.holding pass
  waiting : (left.waiting pass).filter (Candidate.isAbove priority) =
    (right.waiting pass).filter (Candidate.isAbove priority)

/-- The tasks of a pass whose turns come before that of any placeable task of at
most the given priority. -/
def agendaAbove (partition : Partition) (pass : MatchPass) (priority : Int32) :
    List Candidate :=
  partition.holding pass ++
    ((partition.waiting pass).filter fun candidate =>
      !partition.opening.isPlaceable candidate) ++
    (partition.queue pass).filter (Candidate.isAbove priority)

theorem agenda_eq_append (partition : Partition) (pass : MatchPass)
    (priority : Int32) :
    partition.agenda pass =
      partition.agendaAbove pass priority ++
        (partition.queue pass).filter fun candidate =>
          !candidate.isAbove priority := by
  have hqueue :
      (partition.queue pass).filter (Candidate.isAbove priority) ++
          (partition.queue pass).filter
            (fun candidate => !candidate.isAbove priority) =
        partition.queue pass := by
    apply filter_append_filter_of_pairwise
      (pairwise_mergeSort_isLE Candidate.compareQueue _)
    intro first _ second _ hordered habove
    rw [Candidate.isAbove, decide_eq_true_eq] at habove ⊢
    exact Int32.lt_of_lt_of_le habove
      (Candidate.priority_le_of_compareQueue hordered)
  rw [agendaAbove, List.append_assoc, hqueue, agenda]

/-- Down to the priority both queues are the same. -/
theorem AgreesAbove.queue_eq (hagrees : AgreesAbove pass priority left right)
    (hleft : left.Sound pass) (hright : right.Sound pass) :
    (left.queue pass).filter (Candidate.isAbove priority) =
      (right.queue pass).filter (Candidate.isAbove priority) := by
  have hqueue : ∀ partition : Partition, partition.Sound pass →
      (partition.queue pass).filter (Candidate.isAbove priority) =
        (((partition.waiting pass).filter (Candidate.isAbove priority)).filter
          partition.opening.isPlaceable).mergeSort
            fun left right => (left.compareQueue right).isLE := by
    intro partition hsound
    rw [queue, filter_mergeSort Candidate.compareQueue, isPlaceable_settled,
      List.filter_comm]
    intro first hfirst second hsecond
    exact eq_of_compareQueue hsound
      (mem_decided_of_mem_waiting (List.mem_of_mem_filter hfirst))
      (mem_decided_of_mem_waiting (List.mem_of_mem_filter hsecond))
  rw [hqueue left hleft, hqueue right hright, hagrees.waiting,
    opening_eq_of_nodes hagrees.group hagrees.nodes]

section Rows

variable (hagrees : AgreesAbove pass priority left right)
  (hleft : left.Sound pass)
variable (hcandidate : candidate ∈ left.decided pass)
variable (houtranks : candidate.prepared.Outranks priority)

include hleft hcandidate houtranks

/-- Of the queued tasks only the task itself has its id, and it is above the
priority. -/
theorem filter_waiting_eq :
    (left.waiting pass).filter (fun other => other.id = candidate.id) =
      ((left.waiting pass).filter
        (Candidate.isAbove priority)).filter fun other =>
          other.id = candidate.id := by
  rw [List.filter_filter]
  apply List.filter_congr
  intro other hother
  by_cases hid : other.id = candidate.id
  · have hqueued := left.isScheduled_of_mem_waiting pass hother
    obtain rfl :=
      eq_of_id hleft hcandidate (mem_decided_of_mem_waiting hother) hid
    rcases houtranks with ⟨-, habove⟩ | ⟨hscheduled, -⟩
    · have hbelow : priority < other.prepared.effectivePriority := habove
      simp [Candidate.isAbove, hbelow]
    · exact absurd (hqueued.symm.trans hscheduled) Bool.false_ne_true
  · simp [hid]

/-- Less urgent tasks leave the row of the task as it is. -/
theorem filterMap_ofTask_walk {done rest : List Candidate}
    (hdecided : done ++ rest ⊆ left.decided pass)
    (hids : ((done ++ rest).map Candidate.id).Nodup)
    (hqueued : ∀ other ∈ rest, other.task.isScheduled = false)
    (hbelow : ∀ other ∈ rest, other.prepared.effectivePriority ≤ priority) :
    (left.walk pass (done ++ rest)).decisions.filterMap
        (RowView.ofTask candidate.id).see =
      (left.walk pass done).decisions.filterMap
        (RowView.ofTask candidate.id).see := by
  -- The induction is on the turns after `done`.  None of them is the task's
  -- own, and each suspends only what is below it, which the task is not.
  induction rest using List.reverseRecOn with
  | nil => rw [List.append_nil]
  | append_singleton rest other ih =>
    rw [← List.append_assoc] at hdecided hids ⊢
    have hearlier : done ++ rest ⊆ left.decided pass := fun _ hmem =>
      hdecided (List.mem_append_left _ hmem)
    have hearlierIds :=
      hids.sublist ((List.sublist_append_left (done ++ rest) [other]).map _)
    have hother : other ∈ left.decided pass := hdecided (by simp)
    have hotherQueued := hqueued other (by simp)
    have hotherBelow := hbelow other (by simp)
    obtain ⟨htracks, -⟩ := tracks_walk hleft hearlier hearlierIds
    have hturn : MatchState.Turn pass left.valid (left.walk pass (done ++ rest))
        other (left.walk pass (done ++ rest ++ [other])) :=
      htracks.turn_walk hleft hearlier hearlierIds
    have hdiffers : other.id ≠ candidate.id := by
      intro hid
      obtain rfl := eq_of_id hleft hcandidate hother hid
      rcases houtranks with ⟨-, habove⟩ | ⟨hscheduled, -⟩
      · exact Int32.not_le.mpr habove hotherBelow
      · exact Bool.false_ne_true (hotherQueued.symm.trans hscheduled)
    rw [hturn.filterMap_ofTask hotherQueued hdiffers]
    · exact ih hearlier hearlierIds
        (fun _ hmem => hqueued _ (List.mem_append_left _ hmem)) fun _ hmem =>
          hbelow _ (List.mem_append_left _ hmem)
    · intro holder hholder hid
      obtain ⟨kept, hkept, rfl, hscheduled, -⟩ := htracks.kept holder hholder
      obtain rfl := eq_of_id hleft hcandidate (hearlier hkept) hid
      rcases houtranks with ⟨hwaiting, -⟩ | ⟨-, hlevel⟩
      · exact absurd (hwaiting.symm.trans hscheduled) Bool.false_ne_true
      · exact Int32.le_trans hotherBelow hlevel

/-- The row of the task is as the tasks above the priority leave it. -/
theorem filterMap_ofTask_run :
    (left.run pass).tasks.filterMap (RowView.ofTask candidate.id).see =
      (left.walk pass (left.agendaAbove pass priority)).decisions.filterMap
        (RowView.ofTask candidate.id).see := by
  have hperm := left.agenda_perm pass
  have hids := hleft.nodup_agenda
  rw [left.agenda_eq_append pass priority] at hperm hids
  rw [run_eq, left.agenda_eq_append pass priority]
  apply filterMap_ofTask_walk hleft hcandidate houtranks hperm.subset hids
  · intro other hother
    exact left.isScheduled_of_mem_waiting pass
      ((left.mem_queue_iff pass).mp (List.mem_of_mem_filter hother)).1
  · intro other hother
    have hbelow := (List.mem_filter.mp hother).2
    rw [Candidate.isAbove, Bool.not_eq_true', decide_eq_false_iff_not,
      Int32.not_lt] at hbelow
    exact hbelow

end Rows

/-- The row of the task is the same in both partitions before any task is
placed. -/
theorem AgreesAbove.alike_screened
    (hagrees : AgreesAbove pass priority left right) (hleft : left.Sound pass)
    (hright : right.Sound pass) (hcandidate : candidate ∈ left.decided pass)
    (hother : candidate ∈ right.decided pass)
    (houtranks : candidate.prepared.Outranks priority) :
    MatchState.Alike (RowView.ofTask candidate.id) (left.screened pass)
      (right.screened pass) := by
  have hsettled : left.settled pass = right.settled pass := by
    rw [settled, hagrees.holding, hagrees.group, hagrees.nodes, settled]
  have hwaiting :
      (left.waiting pass).filter (fun other => other.id = candidate.id) =
        (right.waiting pass).filter fun other => other.id = candidate.id := by
    rw [filter_waiting_eq hleft hcandidate houtranks, hagrees.waiting,
      ← filter_waiting_eq hright hother houtranks]
  have hown : ∀ (state : MatchState) (waiting : List Candidate),
      MatchState.Alike (RowView.ofTask candidate.id)
        (waiting.foldl MatchState.screen state)
        ((waiting.filter fun other => other.id = candidate.id).foldl
          MatchState.screen state) :=
    fun state => MatchState.alike_foldl_screen (MatchState.Alike.refl _ state)
  have hfirst := hown (left.settled pass) (left.waiting pass)
  have hsecond := hown (right.settled pass) (right.waiting pass)
  rw [hwaiting, hsettled] at hfirst
  rw [screened, screened, hsettled]
  exact hfirst.trans hsecond.symm

/-- Partitions that agree above a priority decide alike on a task that no
waiting task of the priority can disturb. -/
theorem AgreesAbove.mem_run_iff (hagrees : AgreesAbove pass priority left right)
    (hleft : left.Sound pass) (hright : right.Sound pass)
    (hcandidate : candidate ∈ left.decided pass)
    (hother : candidate ∈ right.decided pass)
    (houtranks : candidate.prepared.Outranks priority) {row : Task}
    (hid : row.id = candidate.id) :
    row ∈ (left.run pass).tasks ↔ row ∈ (right.run pass).tasks := by
  have hscreened :=
    hagrees.alike_screened hleft hright hcandidate hother houtranks
  have hqueue := hagrees.queue_eq hleft hright
  obtain ⟨hleftTurns, hleftIds, -⟩ :=
    hleft.firstTurns (left.agenda_eq_append pass priority)
  obtain ⟨hrightTurns, hrightIds, -⟩ :=
    hright.firstTurns (right.agenda_eq_append pass priority)
  have hplaced : List.Forall₂ (Candidate.Alike (RowView.ofTask candidate.id))
      ((left.queue pass).filter (Candidate.isAbove priority))
      ((right.queue pass).filter (Candidate.isAbove priority)) := by
    rw [hqueue]
    exact List.forall₂_same.mpr fun candidate _ =>
      Candidate.Alike.refl _ candidate
  rw [screened_eq, screened_eq] at hscreened
  have halike : MatchState.Alike (RowView.ofTask candidate.id)
      (left.walk pass (left.agendaAbove pass priority))
      (right.walk pass (right.agendaAbove pass priority)) :=
    alike_walk hleft hright hagrees.valid hplaced hscreened hleftTurns
      hrightTurns hleftIds hrightIds
  have hrows := halike.rows
  rw [← filterMap_ofTask_run hleft hcandidate houtranks,
    ← filterMap_ofTask_run hright hother houtranks] at hrows
  have hmem : ∀ rows : List Task,
      row ∈ rows.filterMap (RowView.ofTask candidate.id).see ↔ row ∈ rows := by
    intro rows
    rw [RowView.mem_filterMap_ofTask_iff, and_iff_left hid]
  rw [← hmem, hrows.mem_iff, hmem]

end Partition

end ClusterTick
