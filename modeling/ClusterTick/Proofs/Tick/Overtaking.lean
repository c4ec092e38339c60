import ClusterTick.Fixture.Scenario
import ClusterTick.Proofs.Match.Overtaking
import ClusterTick.Proofs.Tick.Enactment
import ClusterTick.Proofs.Tick.Share

/-!
# Who is overtaken in a tick

Queued tasks of one group that are decided on in the same pass are admitted in a
fixed order.  One that is admitted and waits may see a later one start, on free
nodes or by preemption, but only if the later one asks for fewer nodes.
-/

namespace ClusterTick

/-- A ruling that starts a task or leaves it waiting is one on a task that is to
be placed. -/
theorem Ruling.mem_queue {partition : Partition} {pass : MatchPass}
    {rows : List Task} {candidate : Candidate} {row : Task}
    (hruling : Ruling partition pass rows candidate row)
    (hsound : partition.Sound pass)
    (hcandidate : candidate ∈ partition.decided pass)
    (hplaced : row.processResult = .startup ∨ row.isWaiting) :
    candidate ∈ partition.queue pass := by
  have hqueue : candidate.task.isScheduled = false →
      candidate.task.nodes.toNat ≤ partition.nodes.length →
      candidate.admission = .approved → candidate ∈ partition.queue pass := by
    intro hwaiting hfits hadmission
    rw [Partition.mem_queue_iff,
      (Partition.tracks_opening hsound.names).isPlaceable_iff,
      Partition.waiting, List.mem_filter]
    exact ⟨⟨hcandidate, by simp [hwaiting]⟩, hfits, hadmission⟩
  cases hruling with
  | started hwaiting hfits hadmission => exact hqueue hwaiting hfits hadmission
  | waiting hwaiting hfits hadmission => exact hqueue hwaiting hfits hadmission
  | kept | suspended | preempted | infeasible | heldBack =>
    simp [Task.isWaiting, Task.withDecision] at hplaced

namespace Tick

variable {prepared : Prepared}

/-- A task that starts or waits stands in the queue of its group. -/
theorem AllReady.mem_queue (hready : AllReady prepared) {task : PreparedTask}
    (htask : task ∈ prepared.workingSet.tasks) {row : Task}
    (hrow : row ∈ tickRows prepared) (hid : row.id = task.id)
    (hplaced : row.processResult = .startup ∨ row.isWaiting) :
    candidateOf prepared task ∈
        (groupPartition prepared (.ofTask task.task)
            (Tick.passFrame prepared (.ofTask task.task)) task.group).queue
          (.ofTask task.task) ∧
      row ∈ (share prepared (.ofTask task.task) task.group).tasks := by
  rw [hready.mem_tickRows_of_id htask hid] at hrow
  obtain ⟨hmatchable, -, hruling⟩ :=
    (hready.passFrame _).ruling_of_id htask hid hrow
  refine ⟨hruling.mem_queue ((hready.passFrame _).sound _) ?_ hplaced, hrow⟩
  exact mem_decided_groupPartition_iff.mpr ⟨task, hmatchable, rfl, rfl⟩

section Schedule

variable (snapshot : Snapshot) (config : EngineConfig) (decidedAt : Instant)

/-- A task is overtaken by smaller ones only. -/
theorem nodes_lt_of_overtaking :
    ∀ waiter ∈ (workingSet snapshot config).tasks,
      ∀ starter ∈ (workingSet snapshot config).tasks, waiter.task.isQueued →
      starter.task.isQueued → waiter.group = starter.group →
      waiter.task.isValidation = starter.task.isValidation →
      waiter.AheadOf starter →
      ∀ waiting ∈ (schedule snapshot config decidedAt).assignment.tasks,
      waiting.id = waiter.id → waiting.isWaiting →
      ∀ started ∈ (schedule snapshot config decidedAt).assignment.tasks,
      started.id = starter.id → started.processResult = .startup →
      starter.task.nodes < waiter.task.nodes := by
  intro waiter hwaiter starter hstarter _ _ hgroup hvalidation hahead waiting
    hwaitingRow hwaitingId hwaiting started hstartedRow hstartedId hstartup
  have hready := allReady_prepare snapshot config
  rw [schedule_tasks] at hwaitingRow hstartedRow
  have hpass : MatchPass.ofTask waiter.task = .ofTask starter.task := by
    rw [MatchPass.ofTask, hvalidation, MatchPass.ofTask]
  obtain ⟨hwaiterQueue, hwaitingShare⟩ :=
    hready.mem_queue hwaiter hwaitingRow hwaitingId (Or.inr hwaiting)
  obtain ⟨hstarterQueue, hstartedShare⟩ :=
    hready.mem_queue hstarter hstartedRow hstartedId (Or.inl hstartup)
  rw [← hpass, ← hgroup] at hstarterQueue hstartedShare
  exact Partition.nodes_lt_of_overtaken ((hready.passFrame _).sound _)
    hwaiterQueue hstarterQueue (Candidate.compareQueue_eq_lt_iff.mpr hahead)
    hwaitingShare hwaitingId hwaiting hstartedShare hstartedId hstartup

/-- Two nodes, which an urgent task and the least urgent one hold.  Of the two
tasks that wait, the first one asks for both nodes. -/
def contendedNodes : Snapshot :=
  { group := ⟨"train"⟩ : Scenario }
    |>.addReadyNodes "n" 2 "room"
    |>.addQuotaHolder ⟨"alice"⟩ 2
    |>.addScheduled ⟨1⟩ ⟨"alice"⟩ 40 [⟨"n1"⟩]
    |>.addScheduled ⟨2⟩ ⟨"alice"⟩ (-10) [⟨"n2"⟩]
    |>.addQueued ⟨3⟩ ⟨"alice"⟩ 30 2
    |>.addQueued ⟨4⟩ ⟨"alice"⟩ 20 1
    |>.snapshot default

/-- The training pass over the group of these tasks. -/
def contendedPartition : Partition :=
  groupPartition (prepare contendedNodes {}) .training
    (prepare contendedNodes {}).workingSet.nodes ⟨"train"⟩

private theorem share_contendedNodes :
    share (prepare contendedNodes {}) .training ⟨"train"⟩ =
      contendedPartition.run .training := by
  have hidle :
      ⟨"train"⟩ ∉ passGroups (prepare contendedNodes {}) .validation := by
    rw [mem_passGroups_iff]
    decide +kernel
  exact congrArg (Partition.run · .training)
    ((allReady_prepare contendedNodes {}).groupPartition_training_of_idle hidle)

/-- The tasks that wait are placed in the order of the snapshot. -/
theorem queue_contendedPartition : contendedPartition.queue .training =
    contendedPartition.waiting .training := by
  rw [Partition.queue, mergeSort_of_ordered Candidate.compareQueue]
  · decide +kernel
  · decide +kernel

/-- The fourth task overtakes the third one, by preemption, and asks for fewer
nodes. -/
theorem nodes_lt_of_overtaking_contendedNodes :
    ∃ waiter ∈ (workingSet contendedNodes {}).tasks,
      ∃ starter ∈ (workingSet contendedNodes {}).tasks,
      (waiter.task.isQueued ∧ starter.task.isQueued ∧
        waiter.group = starter.group ∧
        waiter.task.isValidation = starter.task.isValidation ∧
        waiter.AheadOf starter) ∧
      ∃ waiting ∈ (schedule contendedNodes {} default).assignment.tasks,
        (waiting.id = waiter.id ∧ waiting.isWaiting) ∧
        ∃ started ∈ (schedule contendedNodes {} default).assignment.tasks,
          (started.id = starter.id ∧ started.processResult = .startup) ∧
          starter.task.nodes < waiter.task.nodes := by
  obtain ⟨waiter, hwaiter, starter, hstarter, ⟨hwaiterId, hstarterId⟩, hpair⟩ :
      ∃ waiter ∈ (workingSet contendedNodes {}).tasks,
        ∃ starter ∈ (workingSet contendedNodes {}).tasks,
        (waiter.id = ⟨3⟩ ∧ starter.id = ⟨4⟩) ∧ waiter.task.isQueued ∧
        starter.task.isQueued ∧ waiter.group = starter.group ∧
        waiter.task.isValidation = starter.task.isValidation ∧
        waiter.AheadOf starter := by
    decide +kernel
  have hplaces : ∀ row ∈ (contendedPartition.run .training).tasks,
      MatchPass.ofTask row = .training ∧ row.group = ⟨"train"⟩ := by
    rw [Partition.run, queue_contendedPartition]
    decide +kernel
  have hrows : ∀ row ∈ (contendedPartition.run .training).tasks,
      row ∈ (schedule contendedNodes {} default).assignment.tasks := by
    intro row hrow
    obtain ⟨hpass, hgroup⟩ := hplaces row hrow
    rw [schedule_tasks, (allReady_prepare contendedNodes {}).mem_tickRows_iff,
      hpass, hgroup, share_contendedNodes]
    exact hrow
  obtain ⟨⟨waiting, hwaiting, hwaits⟩, started, hstarted, hstarts⟩ :
      (∃ row ∈ (contendedPartition.run .training).tasks, row.id = ⟨3⟩ ∧
          row.isWaiting) ∧
        ∃ row ∈ (contendedPartition.run .training).tasks, row.id = ⟨4⟩ ∧
          row.processResult = .startup := by
    rw [Partition.run, queue_contendedPartition]
    decide +kernel
  rw [← hwaiterId] at hwaits
  rw [← hstarterId] at hstarts
  have hwaiting := hrows waiting hwaiting
  have hstarted := hrows started hstarted
  exact ⟨waiter, hwaiter, starter, hstarter, hpair, waiting, hwaiting, hwaits,
    started, hstarted, hstarts,
    nodes_lt_of_overtaking contendedNodes {} default waiter hwaiter starter
      hstarter hpair.1 hpair.2.1 hpair.2.2.1 hpair.2.2.2.1 hpair.2.2.2.2 waiting
      hwaiting hwaits.1 hwaits.2 started hstarted hstarts.1 hstarts.2⟩

end Schedule

end Tick

end ClusterTick
