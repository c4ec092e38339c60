import ClusterTick.Fixture.Scenario
import ClusterTick.Proofs.Tick.Coverage
import ClusterTick.Proofs.Tick.QuotaSafety
import ClusterTick.Proofs.Tick.Replay

/-!
# One attempt of a chain holds nodes

The attempts of a chain may be of different groups and users, and be decided on
in different passes, none of which sees the others.  That no two of them hold
nodes after a tick is up to the rules: they let nobody hold nodes but the latest
attempt that is not finished, and they know all attempts.
-/

namespace ClusterTick

/-- Rows of one task are one row, if no task has two rows. -/
theorem length_le_one_of_ids {rows : List Task}
    (hdistinct : (rows.map Task.id).Nodup)
    (hsame : ∀ left ∈ rows, ∀ right ∈ rows, left.id = right.id) :
    rows.length ≤ 1 := by
  cases rows with
  | nil => exact Nat.zero_le 1
  | cons first rest =>
    have hsubset : (first :: rest).map Task.id ⊆ [first.id] := by
      intro id hid
      obtain ⟨row, hrow, rfl⟩ := List.mem_map.mp hid
      exact List.mem_singleton.mpr (hsame row hrow first List.mem_cons_self)
    simpa using (List.subperm_of_subset hdistinct hsubset).length_le

/-- The attempts of a chain that are not finished. -/
def WorkingSet.openAttempts (set : WorkingSet) (chain : ChainId) :
    List PreparedTask :=
  set.tasks.filter fun attempt =>
    !attempt.task.isFinished && attempt.task.chainId = chain

namespace Assignment

/-- The rows of a chain that hold nodes. -/
def holders (assignment : Assignment) (chain : ChainId) : List Task :=
  assignment.tasks.filter fun row => row.isHolding && row.chainId = chain

/-- The rows of a chain that are scheduled once the assignment is enacted. -/
def projectedHolders (assignment : Assignment) (snapshot : Snapshot)
    (chain : ChainId) : List Task :=
  (assignment.project snapshot).filter fun row =>
    row.isScheduled && row.chainId = chain

/-- Of a chain, nobody but the latest open attempt holds nodes. -/
structure HoldsLatest (assignment : Assignment) (set : WorkingSet)
    (chain : ChainId) : Prop where
  single : (assignment.holders chain).length ≤ 1
  latest : ∀ row ∈ assignment.holders chain,
    ∃ attempt ∈ set.openAttempts chain, attempt.id = row.id ∧
      ∀ other ∈ set.openAttempts chain, other.id.value ≤ row.id.value
  /-- All other attempts lose their nodes. -/
  others : ∀ attempt ∈ set.openAttempts chain, attempt.task.isScheduled →
    attempt.id ∉ (assignment.holders chain).map Task.id →
    ∃ row ∈ assignment.tasks, row.id = attempt.id ∧ row.processResult = .suspend

end Assignment

theorem WorkingSet.mem_openAttempts_iff {set : WorkingSet} {chain : ChainId}
    {attempt : PreparedTask} :
    attempt ∈ set.openAttempts chain ↔
      attempt ∈ set.tasks ∧ attempt.task.isFinished = false ∧
        attempt.task.chainId = chain := by
  simp [openAttempts]

namespace Tick

variable (snapshot : Snapshot) (config : EngineConfig) (decidedAt : Instant)

/-- Whether a task is the head of a chain. -/
def IsHead (chain : ChainId) (id : TaskId) : Prop :=
  ∃ head ∈ (workingSet snapshot config).tasks, head.id = id ∧ head.isChainHead ∧
    head.task.chainId = chain

/-- No two rows are of the head of one chain. -/
theorem length_le_one_of_isHead {chain : ChainId} {rows : List Task}
    (hdistinct : (rows.map Task.id).Nodup)
    (hheads : ∀ row ∈ rows, IsHead snapshot config chain row.id) :
    rows.length ≤ 1 := by
  apply length_le_one_of_ids hdistinct
  intro left hleft right hright
  obtain ⟨first, hfirst, hleftId, hfirstHead, hfirstChain⟩ := hheads left hleft
  obtain ⟨second, hsecond, hrightId, hsecondHead, hsecondChain⟩ :=
    hheads right hright
  rw [← hleftId, ← hrightId]
  exact WorkingSet.chainHead_unique snapshot config.defaultGroup hfirst hsecond
    hfirstHead hsecondHead (hfirstChain.trans hsecondChain.symm)

theorem IsHead.exists_latest {chain : ChainId} {id : TaskId}
    (hhead : IsHead snapshot config chain id) :
    ∃ attempt ∈ (workingSet snapshot config).openAttempts chain,
      attempt.id = id ∧
      ∀ other ∈ (workingSet snapshot config).openAttempts chain,
        other.id.value ≤ id.value := by
  obtain ⟨head, hmem, rfl, hisHead, rfl⟩ := hhead
  obtain ⟨hopen, hlatest⟩ :=
    WorkingSet.id_le_of_isChainHead snapshot config.defaultGroup hmem hisHead
  refine ⟨head, WorkingSet.mem_openAttempts_iff.mpr ⟨hmem, hopen, rfl⟩, rfl, ?_⟩
  intro other hother
  obtain ⟨hotherMem, hotherOpen, hchain⟩ :=
    WorkingSet.mem_openAttempts_iff.mp hother
  exact hlatest other hotherMem hotherOpen hchain

private theorem isHead_of_mem_holders {chain : ChainId} {row : Task}
    (hrow : row ∈
      (schedule snapshot config decidedAt).assignment.holders chain) :
    IsHead snapshot config chain row.id := by
  simp only [Assignment.holders, List.mem_filter, Bool.and_eq_true,
    decide_eq_true_eq, schedule_tasks] at hrow
  obtain ⟨hmem, hholding, rfl⟩ := hrow
  obtain ⟨pass, frame, -, -, head, hmatched, hruling⟩ :=
    (allReady_prepare snapshot config).ruled hmem
  have hhead := (mem_matchable_iff.mp hmatched).1
  have hadmitted :=
    admitted_of_holding snapshot config hhead hmem hruling.id_eq hholding
  exact ⟨head, hhead, hruling.id_eq.symm, hadmitted.1,
    (Task.chainId_eq_of_request hruling.request_eq).symm⟩

/-- A row is scheduled after the tick only if it is of the head of its chain. -/
theorem isHead_of_mem_projectedHolders
    (hids : (snapshot.tasks.map Task.id).Nodup) {chain : ChainId} {row : Task}
    (hrow : row ∈
      (schedule snapshot config decidedAt).assignment.projectedHolders snapshot
        chain) :
    IsHead snapshot config chain row.id := by
  simp only [Assignment.projectedHolders, List.mem_filter, Bool.and_eq_true,
    decide_eq_true_eq, project_schedule] at hrow
  obtain ⟨hmem, hscheduled, rfl⟩ := hrow
  obtain ⟨task, htask, rfl⟩ := List.mem_map.mp hmem
  obtain ⟨head, hhead, hsame⟩ :=
    (exists_row_task_iff snapshot config hids).mp ⟨task, htask, rfl⟩
  obtain ⟨decided, hdecided, hid, hholding⟩ :=
    (isScheduled_change_raw_iff snapshot config decidedAt hhead hsame.symm).mp
      hscheduled
  have hadmitted :=
    admitted_of_holding snapshot config hhead hdecided hid hholding
  refine ⟨head, hhead, ?_, hadmitted.1, ?_⟩
  · rw [PreparedTask.id, hsame, Revision.id_change, WorkingSet.id_normalizeTask]
  · rw [hsame,
      Task.chainId_eq_of_plan ((revision snapshot config decidedAt).plan task)]
    rfl

theorem holdsLatest_schedule (chain : ChainId) :
    (schedule snapshot config decidedAt).assignment.HoldsLatest
      (workingSet snapshot config) chain where
  single := by
    apply length_le_one_of_isHead snapshot config
    · exact (nodup_schedule_tasks snapshot config decidedAt).sublist
        (List.filter_sublist.map _)
    · exact fun _ => isHead_of_mem_holders snapshot config decidedAt
  latest :=
    fun _ hrow =>
      (isHead_of_mem_holders snapshot config decidedAt hrow).exists_latest
  others := by
    intro attempt hattempt hscheduled hother
    obtain ⟨hmem, -, hchain⟩ := WorkingSet.mem_openAttempts_iff.mp hattempt
    obtain ⟨row, hrow, hid⟩ :=
      ((allReady_prepare snapshot config).exists_row_iff hmem).mpr
        (by simp [PreparedTask.isMatchable, hscheduled])
    rw [← schedule_tasks snapshot config decidedAt] at hrow
    obtain ⟨_, _, _, hruling⟩ :=
      exists_ruling snapshot config decidedAt hrow hmem hid
    refine ⟨row, hrow, hid, ?_⟩
    rcases hruling.keepRunning_or_suspend hscheduled with hkept | hsuspended
    · refine absurd (hid ▸ List.mem_map_of_mem (List.mem_filter.mpr ⟨hrow, ?_⟩))
        hother
      have hrowChain : row.chainId = attempt.task.chainId :=
        Task.chainId_eq_of_request hruling.request_eq
      simp [Task.isHolding, hkept, Decision.holds, hrowChain, hchain]
    · exact hsuspended

theorem length_projectedHolders_le_one
    (hids : (snapshot.tasks.map Task.id).Nodup) (chain : ChainId) :
    ((schedule snapshot config decidedAt).assignment.projectedHolders snapshot
        chain).length ≤ 1 := by
  apply length_le_one_of_isHead snapshot config
  · have hprojected :
        ((schedule snapshot config decidedAt).assignment.project snapshot).map
            Task.id =
          snapshot.tasks.map Task.id :=
      ids_following snapshot config decidedAt
    exact (hprojected ▸ hids).sublist (List.filter_sublist.map _)
  · exact fun _ => isHead_of_mem_projectedHolders snapshot config decidedAt hids

/-- Of every chain, the latest open attempt alone may hold nodes, and no two
attempts are scheduled after the tick. -/
theorem single_attempt_holds :
    (∀ chain,
        (schedule snapshot config decidedAt).assignment.HoldsLatest
          (workingSet snapshot config) chain) ∧
      ((snapshot.tasks.map Task.id).Nodup → ∀ chain,
        ((schedule snapshot config decidedAt).assignment.projectedHolders
            snapshot chain).length ≤ 1) :=
  ⟨holdsLatest_schedule snapshot config decidedAt,
    length_projectedHolders_le_one snapshot config decidedAt⟩

/-- Two attempts of one chain, both scheduled. -/
def restartedChain : Snapshot :=
  { group := ⟨"train"⟩ : Scenario }
    |>.addReadyNode ⟨"n1"⟩ "room"
    |>.addQuotaHolder ⟨"alice"⟩ 2
    |>.addScheduled ⟨2⟩ ⟨"alice"⟩ 10 [⟨"n1"⟩]
    |>.changeLastTask (fun task =>
      { task with chainId := ⟨"c1"⟩, firstId := ⟨1⟩ })
    |>.addScheduled ⟨1⟩ ⟨"alice"⟩ 10 []
    |>.changeLastTask (fun task =>
      { task with chainId := ⟨"c1"⟩, taskType := .validation, nodes := 1 })
    |>.snapshot default

/-- The later attempt keeps its node, and the earlier one, which the other pass
decides on, is suspended. -/
theorem single_attempt_holds_restartedChain :
    ((schedule restartedChain {} default).assignment.holders ⟨"c1"⟩).map
          Task.id = [⟨2⟩] ∧
      (∀ chain,
        (schedule restartedChain {} default).assignment.HoldsLatest
          (workingSet restartedChain {}) chain) ∧
      (restartedChain.tasks.map Task.id).Nodup ∧
      ∀ chain,
        ((schedule restartedChain {} default).assignment.projectedHolders
            restartedChain chain).length ≤ 1 :=
  have hsingle := single_attempt_holds restartedChain {} default
  ⟨by decide +kernel, hsingle.1, by decide, hsingle.2 (by decide)⟩

end Tick

end ClusterTick
