import ClusterTick.Proofs.Match.Likeness
import ClusterTick.Proofs.Match.Reach

/-!
# Tasks in another order

A pass may be given its tasks in any order.  The turns of the scheduled tasks do
not get in each other's way, and neither do those of the queued tasks that are
turned down; the others are placed in the order of the queue, which is its own.
Nor does it matter what a denial says, as long as the messages are not compared.
-/

namespace ClusterTick

/-- A row without its message. -/
def Task.silenced (row : Task) : Task := { row with schedulerMessage := "" }

/-- All of a row is seen but its message. -/
def RowView.silent : RowView where
  see row := some row.silenced
  id := by
    intro row seen hseen
    rw [← Option.some.inj hseen]
    rfl
  preempted _ _ := rfl

/-- The same candidates, as far as a view tells, in some order. -/
def Candidate.Rearranged (view : RowView) (left right : List Candidate) :
    Prop :=
  ∃ others, List.Forall₂ (Candidate.Alike view) left others ∧ others.Perm right

theorem Candidate.Rearranged.filter {view : RowView}
    {left right : List Candidate} (hsame : Rearranged view left right)
    {keep : Candidate → Bool}
    (hkeep : ∀ {candidate other}, candidate.Alike view other →
      keep candidate = keep other) :
    Rearranged view (left.filter keep) (right.filter keep) := by
  obtain ⟨others, halike, hperm⟩ := hsame
  refine ⟨others.filter keep, List.rel_filter ?_ halike, hperm.filter keep⟩
  intro candidate other hcandidate
  exact Bool.eq_iff_iff.mp (hkeep hcandidate)

namespace MatchState

section Swaps

/-! ## Turns that may be swapped -/

variable {view : RowView} {turn : MatchState → Candidate → MatchState}

/-- A kind of turn that candidates may take in any order. -/
structure Orderless (view : RowView)
    (turn : MatchState → Candidate → MatchState) : Prop where
  keeps : ∀ {left right candidate other}, Alike view left right →
    candidate.Alike view other →
    Alike view (turn left candidate) (turn right other)
  swaps : ∀ state first second,
    Alike view (turn (turn state first) second) (turn (turn state second) first)

theorem Orderless.foldl_forall₂ (horderless : Orderless view turn)
    {left right : MatchState} {first second : List Candidate}
    (halike : Alike view left right)
    (hsame : List.Forall₂ (Candidate.Alike view) first second) :
    Alike view (first.foldl turn left) (second.foldl turn right) := by
  induction hsame generalizing left right with
  | nil => exact halike
  | cons hcandidate _ ih => exact ih (horderless.keeps halike hcandidate)

theorem Orderless.foldl_perm (horderless : Orderless view turn)
    {left right : MatchState} {first second : List Candidate}
    (halike : Alike view left right) (hperm : first.Perm second) :
    Alike view (first.foldl turn left) (second.foldl turn right) := by
  induction hperm generalizing left right with
  | nil => exact halike
  | cons candidate _ ih =>
    exact ih (horderless.keeps halike (Candidate.Alike.refl view candidate))
  | swap candidate other rest =>
    -- The left match swaps its two turns; then both matches take the same ones.
    have hkept : Alike view (turn (turn left candidate) other)
        (turn (turn right candidate) other) :=
      horderless.keeps
        (horderless.keeps halike (Candidate.Alike.refl view candidate))
        (Candidate.Alike.refl view other)
    rw [List.foldl_cons, List.foldl_cons, List.foldl_cons, List.foldl_cons]
    apply horderless.foldl_forall₂
      ((horderless.swaps left other candidate).trans hkept)
    exact List.forall₂_same.mpr fun candidate _ =>
      Candidate.Alike.refl view candidate
  | trans _ _ ihFirst ihSecond =>
    exact (ihFirst halike).trans (ihSecond (Alike.refl view right))

/-- Matches stay alike over candidates that take such turns in another order. -/
theorem Orderless.foldl (horderless : Orderless view turn)
    {left right : MatchState} {first second : List Candidate}
    (halike : Alike view left right)
    (hsame : Candidate.Rearranged view first second) :
    Alike view (first.foldl turn left) (second.foldl turn right) := by
  obtain ⟨others, hothers, hperm⟩ := hsame
  exact (horderless.foldl_forall₂ halike hothers).trans
    (horderless.foldl_perm (Alike.refl view right) hperm)

theorem Alike.of_perm {left right : MatchState}
    (hheader : left.header = right.header) (hpool : left.pool = right.pool)
    (hholders : left.holders.Perm right.holders)
    (hdecisions : left.decisions.Perm right.decisions) :
    Alike view left right :=
  ⟨hheader, hpool, hholders, hdecisions.filterMap _⟩

theorem append_swap_perm {α : Type} (rows first second : List α) :
    (rows ++ first ++ second).Perm (rows ++ second ++ first) := by
  rw [List.append_assoc, List.append_assoc]
  exact List.perm_append_comm.append_left rows

end Swaps

section Settle

/-! ## Scheduled tasks in another order -/

/-- What settling a task does to a node. -/
def settleNode (candidate : Candidate) (place : PoolNode) : PoolNode :=
  match candidate.verdict.running with
  | .approved => place
  | .denied _ =>
    releaseNode candidate.task.id candidate.task.assignedNodes place

/-- The holders that come from settling a task. -/
def settledHolders (pass : MatchPass) (candidate : Candidate) : List Holder :=
  match candidate.verdict.running with
  | .approved => if pass = .training then [holderOf candidate.prepared] else []
  | .denied _ => []

/-- The row that comes from settling a task. -/
def settledRow (candidate : Candidate) : Task :=
  match candidate.verdict.running with
  | .approved => candidate.task.withDecision .keepRunning .canRun ""
  | .denied denial =>
    candidate.task.withDecision .suspend .cannotRun denial.message

private theorem settle_eq (pass : MatchPass) (state : MatchState)
    (candidate : Candidate) : state.settle pass candidate =
      { state with
        pool := state.pool.map (settleNode candidate)
        holders := state.holders ++ settledHolders pass candidate
        decisions := state.decisions ++ [settledRow candidate] } := by
  have hnode : settleNode candidate = fun place => settleNode candidate place :=
    rfl
  rw [hnode]
  cases hrunning : candidate.verdict.running with
  | approved =>
    simp only [settle, settleNode, settledHolders, settledRow, hrunning,
      keep_eq, List.map_id']
    cases pass <;> simp [Candidate.task]
  | denied denial =>
    simp only [settle, settleNode, settledHolders, settledRow, hrunning,
      suspend_eq, release, List.append_nil]

private theorem releaseNode_of_vacant (id : TaskId) (names : List NodeName)
    {place : PoolNode} (hvacant : place.node.working = none) :
    releaseNode id names place = place := by
  rw [releaseNode, if_neg]
  simp [isHeldBy, hvacant]

private theorem working_releaseNode {id : TaskId} {names : List NodeName}
    {place : PoolNode} (hheld : isHeldBy id names place.node) :
    (releaseNode id names place).node.working = none := by
  rw [releaseNode, if_pos hheld]

/-- Two tasks may give back their nodes in either order. -/
theorem releaseNode_comm (id other : TaskId) (names others : List NodeName)
    (place : PoolNode) :
    releaseNode id names (releaseNode other others place) =
      releaseNode other others (releaseNode id names place) := by
  have hkept : ∀ {holder listed}, isHeldBy holder listed place.node = false →
      releaseNode holder listed place = place := by
    intro holder listed hheld
    rw [releaseNode, hheld, if_neg Bool.false_ne_true]
  cases hfirst : isHeldBy id names place.node with
  | false =>
    cases hsecond : isHeldBy other others place.node with
    | false => rw [hkept hsecond, hkept hfirst, hkept hsecond]
    | true =>
      rw [hkept hfirst,
        releaseNode_of_vacant id names (working_releaseNode hsecond)]
  | true =>
    rw [releaseNode_of_vacant other others (working_releaseNode hfirst)]
    cases hsecond : isHeldBy other others place.node with
    | false => rw [hkept hsecond]
    | true =>
      rw [releaseNode_of_vacant id names (working_releaseNode hsecond),
        releaseNode, if_pos hsecond, releaseNode, if_pos hfirst]

private theorem settleNode_comm (first second : Candidate) (place : PoolNode) :
    settleNode first (settleNode second place) =
      settleNode second (settleNode first place) := by
  simp only [settleNode]
  split
  · split <;> rfl
  · split
    · rfl
    · exact releaseNode_comm _ _ _ _ place

theorem orderless_settle (view : RowView) (pass : MatchPass) :
    Orderless view (settle pass) where
  keeps halike hcandidate := halike.settle hcandidate
  swaps state first second := by
    have hpool : (state.pool.map (settleNode first)).map (settleNode second) =
        (state.pool.map (settleNode second)).map (settleNode first) := by
      rw [List.map_map, List.map_map]
      exact List.map_congr_left fun place _ =>
        settleNode_comm second first place
    simp only [settle_eq]
    exact Alike.of_perm rfl hpool (append_swap_perm _ _ _)
      (append_swap_perm _ _ _)

end Settle

section Screen

/-! ## Queued tasks that are turned down in another order -/

/-- The rows that come from screening a task. -/
def screenedRows (state : MatchState) (candidate : Candidate) : List Task :=
  if state.isInfeasible candidate.task then
    [candidate.task.withDecision .notSure .cannotRun
      (infeasibleMessage state.group state.active candidate.task)]
  else
    match candidate.admission with
    | .approved => []
    | .denied denial =>
      [candidate.task.withDecision .notSure .cannotRun denial.message]

private theorem decisions_screen (state : MatchState) (candidate : Candidate) :
    (state.screen candidate).decisions =
      state.decisions ++ screenedRows state candidate := by
  rw [screen, screenedRows]
  split
  · rfl
  · cases candidate.admission with
    | approved => exact (List.append_nil _).symm
    | denied denial => rfl

private theorem screenedRows_of_header {left right : MatchState}
    (hheader : left.header = right.header) :
    screenedRows left = screenedRows right := by
  have hgroup : left.group = right.group := congrArg Prod.fst hheader
  have hactive : left.active = right.active := congrArg Prod.snd hheader
  funext candidate
  rw [screenedRows, isInfeasible, hgroup, hactive, screenedRows, isInfeasible]

@[simp]
theorem pool_screen (state : MatchState) (candidate : Candidate) :
    (state.screen candidate).pool = state.pool := by
  rw [screen]
  split
  · rfl
  · split <;> rfl

@[simp]
theorem holders_screen (state : MatchState) (candidate : Candidate) :
    (state.screen candidate).holders = state.holders := by
  rw [screen]
  split
  · rfl
  · split <;> rfl

theorem orderless_screen (view : RowView) : Orderless view screen where
  keeps halike hcandidate := halike.screen hcandidate
  swaps state first second := by
    apply Alike.of_perm
    · simp
    · simp
    · simp
    · rw [decisions_screen, decisions_screen, decisions_screen,
        decisions_screen, screenedRows_of_header (header_screen state first),
        screenedRows_of_header (header_screen state second)]
      exact append_swap_perm _ _ _

end Screen

end MatchState

namespace Partition

/-! ## A pass over tasks in another order -/

variable {view : RowView} {left right : Partition} {pass : MatchPass}

/-- Two partitions with the same nodes and with candidates that are seen alike,
in any order. -/
structure Rearranged (view : RowView) (left right : Partition) : Prop where
  group : left.group = right.group
  valid : left.valid = right.valid
  nodes : left.nodes = right.nodes
  candidates : Candidate.Rearranged view left.candidates right.candidates

namespace Rearranged

variable (hsame : Rearranged view left right)

include hsame

theorem opening_eq : left.opening = right.opening :=
  opening_eq_of_nodes hsame.group hsame.nodes

theorem decided :
    Candidate.Rearranged view (left.decided pass) (right.decided pass) := by
  apply hsame.candidates.filter
  intro candidate other hcandidate
  have htask : candidate.task = other.task :=
    congrArg PreparedTask.task hcandidate.prepared
  rw [htask, hcandidate.prepared]

theorem holding :
    Candidate.Rearranged view (left.holding pass) (right.holding pass) := by
  apply hsame.decided.filter
  intro candidate other hcandidate
  exact congrArg (fun prepared => prepared.task.isScheduled) hcandidate.prepared

theorem waiting :
    Candidate.Rearranged view (left.waiting pass) (right.waiting pass) := by
  apply hsame.decided.filter
  intro candidate other hcandidate
  exact congrArg (fun prepared => !prepared.task.isScheduled)
    hcandidate.prepared

theorem isPlaceable_eq {candidate other : Candidate}
    (hcandidate : candidate.Alike view other) :
    left.opening.isPlaceable candidate = right.opening.isPlaceable other := by
  have htask : candidate.task = other.task :=
    congrArg PreparedTask.task hcandidate.prepared
  rw [hsame.opening_eq, MatchState.isPlaceable, htask, hcandidate.passes,
    MatchState.isPlaceable]

/-- The queue has an order of its own. -/
theorem queue (hright : right.Sound pass) :
    List.Forall₂ (Candidate.Alike view) (left.queue pass)
      (right.queue pass) := by
  obtain ⟨others, hothers, hperm⟩ :
      Candidate.Rearranged view (left.waiting pass) (right.waiting pass) :=
    hsame.waiting
  have hplaceable : List.Forall₂ (Candidate.Alike view)
      ((left.waiting pass).filter left.opening.isPlaceable)
      (others.filter right.opening.isPlaceable) := by
    apply List.rel_filter _ hothers
    intro candidate other hcandidate
    exact Bool.eq_iff_iff.mp (hsame.isPlaceable_eq hcandidate)
  -- Pairs are sorted alike, and what is permuted is sorted to the same list.
  have hsorted : ((others.filter right.opening.isPlaceable).mergeSort
      fun left right => (left.compareQueue right).isLE) = right.queue pass := by
    rw [Partition.queue, isPlaceable_settled]
    apply mergeSort_of_perm Candidate.compareQueue (hperm.filter _)
    intro first hfirst second hsecond
    exact eq_of_compareQueue hright
      (mem_decided_of_mem_waiting (List.mem_of_mem_filter hfirst))
      (mem_decided_of_mem_waiting (List.mem_of_mem_filter hsecond))
  rw [Partition.queue, isPlaceable_settled, ← hsorted]
  apply forall₂_mergeSort _ hplaceable
  intro first second one other hone hother
  have honeTask : first.task = one.task :=
    congrArg PreparedTask.task hone.prepared
  have hotherTask : second.task = other.task :=
    congrArg PreparedTask.task hother.prepared
  have honeId : first.id = one.id := congrArg PreparedTask.id hone.prepared
  have hotherId : second.id = other.id :=
    congrArg PreparedTask.id hother.prepared
  simp only [Candidate.compareQueue, hone.prepared, hother.prepared, honeTask,
    hotherTask, honeId, hotherId]

/-- Before any task is placed, the matches are alike. -/
theorem screened :
    MatchState.Alike view (left.screened pass) (right.screened pass) := by
  have hsettled :
      MatchState.Alike view (left.settled pass) (right.settled pass) := by
    rw [Partition.settled, Partition.settled]
    apply (MatchState.orderless_settle view pass).foldl _ hsame.holding
    rw [hsame.group, hsame.nodes]
    exact MatchState.Alike.refl view _
  exact (MatchState.orderless_screen view).foldl hsettled hsame.waiting

/-- The pass ends alike. -/
theorem run (hleft : left.Sound pass) (hright : right.Sound pass) :
    (left.run pass).nodes = (right.run pass).nodes ∧
      ((left.run pass).tasks.filterMap view.see).Perm
        ((right.run pass).tasks.filterMap view.see) := by
  have hscreened :
      MatchState.Alike view (left.screened pass) (right.screened pass) :=
    hsame.screened
  rw [screened_eq, screened_eq] at hscreened
  have halike : MatchState.Alike view (left.walk pass (left.agenda pass))
      (right.walk pass (right.agenda pass)) :=
    alike_walk hleft hright hsame.valid (hsame.queue hright) hscreened
      (left.agenda_perm pass).subset (right.agenda_perm pass).subset
      hleft.nodup_agenda hright.nodup_agenda
  rw [run_eq, run_eq]
  refine ⟨?_, halike.rows⟩
  rw [MatchState.outcome, halike.pool]
  rfl

end Rearranged

end Partition

end ClusterTick
