import ClusterTick.Proofs.Match.Tracking
import Mathlib.Data.List.Induction

/-!
# Rulings

What a pass decides on each of its tasks.  Every row is a ruling on its task,
and the outcome of the pass says who occupies the nodes.
-/

namespace ClusterTick

/-- A row that a pass can make of a candidate, and the reason for it.  `rows`
are the decisions of the partition. -/
inductive Ruling (partition : Partition) (pass : MatchPass) (rows : List Task)
    (candidate : Candidate) : Task → Prop
  | kept (hscheduled : candidate.task.isScheduled)
      (hrunning : candidate.verdict.running = .approved) :
      Ruling partition pass rows candidate
        (candidate.task.withDecision .keepRunning .canRun "")
  | suspended {denial : Denial} (hscheduled : candidate.task.isScheduled)
      (hrunning : candidate.verdict.running = .denied denial) :
      Ruling partition pass rows candidate
        (candidate.task.withDecision .suspend .cannotRun denial.message)
  /-- The task would have kept its nodes, but a task above it starts on one of
  them. -/
  | preempted {starter : Candidate} {chosen : List NodeName} {name : NodeName}
      (hscheduled : candidate.task.isScheduled)
      (hrunning : candidate.verdict.running = .approved)
      (hpass : pass = .training) (hvalid : partition.valid)
      (hstarter : starter ∈ partition.decided pass)
      (hwaiting : starter.task.isScheduled = false)
      (hbelow : candidate.prepared.effectivePriority <
        starter.prepared.effectivePriority)
      (hstarted : MatchState.startedRow partition.group starter.task chosen ∈
        rows)
      (hchosen : name ∈ chosen)
      (hlisted : name ∈ candidate.task.assignedNodes) :
      Ruling partition pass rows candidate
        (candidate.task.withDecision .suspend .cannotRun
          (MatchState.preemptedMessage starter.id))
  | infeasible (hwaiting : candidate.task.isScheduled = false)
      (hlarge : partition.nodes.length < candidate.task.nodes.toNat) :
      Ruling partition pass rows candidate
        (candidate.task.withDecision .notSure .cannotRun
          (MatchState.infeasibleMessage partition.group partition.nodes.length
            candidate.task))
  | heldBack {denial : Denial} (hwaiting : candidate.task.isScheduled = false)
      (hfits : candidate.task.nodes.toNat ≤ partition.nodes.length)
      (hadmission : candidate.admission = .denied denial) :
      Ruling partition pass rows candidate
        (candidate.task.withDecision .notSure .cannotRun denial.message)
  | started {chosen : List NodeName}
      (hwaiting : candidate.task.isScheduled = false)
      (hfits : candidate.task.nodes.toNat ≤ partition.nodes.length)
      (hadmission : candidate.admission = .approved)
      (hlength : chosen.length = candidate.task.nodes.toNat)
      (hdistinct : chosen.Nodup)
      (hready : ∀ name ∈ chosen,
        ∃ node ∈ partition.nodes, node.name = name ∧ node.isReady) :
      Ruling partition pass rows candidate
        (MatchState.startedRow partition.group candidate.task chosen)
  | waiting {free : Nat} (hwaiting : candidate.task.isScheduled = false)
      (hfits : candidate.task.nodes.toNat ≤ partition.nodes.length)
      (hadmission : candidate.admission = .approved)
      (hshort : free < candidate.task.nodes.toNat) :
      Ruling partition pass rows candidate
        (candidate.task.withDecision .notSure .canRun
          (MatchState.waitingMessage partition.group free candidate.task))

namespace Ruling

variable {partition : Partition} {pass : MatchPass} {rows : List Task}
  {candidate : Candidate}
variable {row : Task}

theorem request_eq (hruling : Ruling partition pass rows candidate row) :
    row.request = candidate.task.request := by
  cases hruling <;> rfl

theorem id_eq (hruling : Ruling partition pass rows candidate row) :
    row.id = candidate.id :=
  Task.id_eq_of_request hruling.request_eq

theorem group_eq (hruling : Ruling partition pass rows candidate row) :
    row.group = candidate.task.group :=
  Task.group_eq_of_request hruling.request_eq

/-- A task that holds nodes was let keep them, or starts. -/
theorem kept_or_started (hruling : Ruling partition pass rows candidate row)
    (hholding : row.isHolding) :
    (candidate.task.isScheduled ∧ candidate.verdict.running = .approved ∧
        row = candidate.task.withDecision .keepRunning .canRun "") ∨
      ∃ chosen : List NodeName, candidate.task.isScheduled = false ∧
        candidate.admission = .approved ∧
        chosen.length = candidate.task.nodes.toNat ∧ chosen.Nodup ∧
        (∀ name ∈ chosen, ∃ node ∈ partition.nodes, node.name = name) ∧
        row = MatchState.startedRow partition.group candidate.task chosen := by
  cases hruling with
  | kept hscheduled hrunning => exact Or.inl ⟨hscheduled, hrunning, rfl⟩
  | started hwaiting _ hadmission hlength hdistinct hready =>
    refine Or.inr ⟨_, hwaiting, hadmission, hlength, hdistinct, ?_, rfl⟩
    intro name hname
    obtain ⟨node, hnode, hnodeName, -⟩ := hready name hname
    exact ⟨node, hnode, hnodeName⟩
  | suspended => cases hholding
  | preempted => cases hholding
  | infeasible => cases hholding
  | heldBack => cases hholding
  | waiting => cases hholding

/-- A scheduled task keeps the nodes that it lists, or is suspended. -/
theorem of_scheduled (hruling : Ruling partition pass rows candidate row)
    (hscheduled : candidate.task.isScheduled) :
    row.assignedNodes = candidate.task.assignedNodes ∧
      (row.isHolding ∨ row.processResult = .suspend) := by
  cases hruling with
  | kept => exact ⟨rfl, Or.inl rfl⟩
  | suspended => exact ⟨rfl, Or.inr rfl⟩
  | preempted => exact ⟨rfl, Or.inr rfl⟩
  | infeasible hwaiting => simp [hwaiting] at hscheduled
  | heldBack hwaiting => simp [hwaiting] at hscheduled
  | started hwaiting => simp [hwaiting] at hscheduled
  | waiting hwaiting => simp [hwaiting] at hscheduled

/-- Only scheduled tasks are suspended. -/
theorem isScheduled_of_suspended
    (hruling : Ruling partition pass rows candidate row)
    (hsuspended : row.processResult = .suspend) :
    candidate.task.isScheduled := by
  cases hruling with
  | suspended hscheduled => exact hscheduled
  | preempted hscheduled => exact hscheduled
  | kept => cases hsuspended
  | infeasible => cases hsuspended
  | heldBack => cases hsuspended
  | started => cases hsuspended
  | waiting => cases hsuspended

/-- Only admitted tasks start, each on as many ready nodes as it asks for. -/
theorem of_startup (hruling : Ruling partition pass rows candidate row)
    (hstartup : row.processResult = .startup) :
    candidate.admission = .approved ∧
      row.assignedNodes.length = candidate.task.nodes.toNat ∧
      row.assignedNodes.Nodup ∧
      ∀ name ∈ row.assignedNodes,
        ∃ node ∈ partition.nodes, node.name = name ∧ node.isReady := by
  cases hruling with
  | started _ _ hadmission hlength hdistinct hready =>
    exact ⟨hadmission, hlength, hdistinct, hready⟩
  | kept => cases hstartup
  | suspended => cases hstartup
  | preempted => cases hstartup
  | infeasible => cases hstartup
  | heldBack => cases hstartup
  | waiting => cases hstartup

/-- A task starts on nodes of the partition. -/
theorem exists_node_of_startup
    (hruling : Ruling partition pass rows candidate row)
    (hstartup : row.processResult = .startup) {name : NodeName}
    (hname : name ∈ row.assignedNodes) :
    ∃ node ∈ partition.nodes, node.name = name := by
  obtain ⟨-, -, -, hready⟩ := hruling.of_startup hstartup
  obtain ⟨node, hnode, hnodeName, -⟩ := hready name hname
  exact ⟨node, hnode, hnodeName⟩

/-- A queued task that is too large is turned down, and told so. -/
theorem eq_of_tooLarge (hruling : Ruling partition pass rows candidate row)
    (hqueued : candidate.task.isScheduled = false)
    (hlarge : partition.nodes.length < candidate.task.nodes.toNat) :
    row =
      candidate.task.withDecision .notSure .cannotRun
        (MatchState.infeasibleMessage partition.group partition.nodes.length
          candidate.task) := by
  cases hruling with
  | infeasible => rfl
  | heldBack _ hfits | started _ hfits | waiting _ hfits => omega
  | kept hscheduled | suspended hscheduled | preempted hscheduled =>
    simp [hqueued] at hscheduled

/-- A ruling stands as long as the started rows do. -/
theorem mono (hruling : Ruling partition pass rows candidate row)
    {more : List Task}
    (hstarted : ∀ row ∈ rows, row.processResult = .startup → row ∈ more) :
    Ruling partition pass more candidate row := by
  cases hruling with
  | kept hscheduled hrunning => exact .kept hscheduled hrunning
  | suspended hscheduled hrunning => exact .suspended hscheduled hrunning
  | preempted hscheduled hrunning hpass hvalid hstarter hwaiting hbelow hrow
      hchosen hlisted =>
    exact .preempted hscheduled hrunning hpass hvalid hstarter hwaiting hbelow
      (hstarted _ hrow rfl) hchosen hlisted
  | infeasible hwaiting hlarge => exact .infeasible hwaiting hlarge
  | heldBack hwaiting hfits hadmission =>
    exact .heldBack hwaiting hfits hadmission
  | started hwaiting hfits hadmission hlength hdistinct hready =>
    exact .started hwaiting hfits hadmission hlength hdistinct hready
  | waiting hwaiting hfits hadmission hshort =>
    exact .waiting hwaiting hfits hadmission hshort

end Ruling

namespace Partition

section Rulings

variable {partition : Partition} {pass : MatchPass} {done : List Candidate}
variable {state next : MatchState} {candidate : Candidate}

/-- Every row is a ruling on a task that has had its turn. -/
def Ruled (partition : Partition) (pass : MatchPass) (done : List Candidate)
    (rows : List Task) : Prop :=
  ∀ row ∈ rows, ∃ candidate ∈ done, Ruling partition pass rows candidate row

theorem ruled_opening :
    Ruled partition pass [] partition.opening.decisions := by
  intro row hrow
  exact absurd hrow List.not_mem_nil

theorem Ruled.append {rows : List Task}
    (hruled : Ruled partition pass done rows) {row : Task}
    (hrow : Ruling partition pass (rows ++ [row]) candidate row) :
    Ruled partition pass (done ++ [candidate]) (rows ++ [row]) := by
  intro other hother
  rcases List.mem_append.mp hother with hearlier | hlast
  · obtain ⟨ruled, hmem, hruling⟩ := hruled other hearlier
    exact ⟨ruled, List.mem_append_left _ hmem,
      hruling.mono fun _ hstarted _ => List.mem_append_left _ hstarted⟩
  · rw [List.mem_singleton.mp hlast]
    exact ⟨candidate, List.mem_append_right _ (List.mem_singleton_self _), hrow⟩

theorem Tracks.isPlaceable_iff (htracks : partition.Tracks done state) :
    state.isPlaceable candidate ↔
      candidate.task.nodes.toNat ≤ partition.nodes.length ∧
        candidate.admission = .approved := by
  rw [MatchState.isPlaceable, MatchState.isInfeasible, htracks.active_eq,
    Bool.and_eq_true, Check.passes_iff]
  simp

/-- A start on free nodes is a ruling. -/
theorem Tracks.ruling_start (htracks : partition.Tracks done state)
    (hsound : partition.Sound pass)
    (hwaiting : candidate.task.isScheduled = false)
    (hplaceable : state.isPlaceable candidate) {chosen : List NodeName}
    (hlength : chosen.length = candidate.task.nodes.toNat)
    (hfree : chosen.Subperm (state.freeNodes.map Node.name))
    (rows : List Task) :
    Ruling partition pass rows candidate
      (MatchState.startedRow state.group candidate.task chosen) := by
  obtain ⟨hfits, hadmission⟩ := htracks.isPlaceable_iff.mp hplaceable
  rw [htracks.group_eq]
  refine .started hwaiting hfits hadmission hlength ?_ ?_
  · obtain ⟨sub, hsame, hsub⟩ := hfree
    exact hsame.nodup_iff.mp
      ((MatchState.nodup_freeNodes htracks.coherent).sublist hsub)
  · intro name hname
    rw [← opening_isReadyName_iff hsound.names, MatchState.IsReadyName,
      ← htracks.frame]
    exact ((MatchState.mem_freeNodes_iff_not_occupies htracks.coherent).mp
      (hfree.subset hname)).1

/-- The rows of the victims are rulings once the task that they make room for
has started. -/
theorem Tracks.ruled_dismissAll (htracks : partition.Tracks done state)
    (hdone : (done.map Candidate.id).Nodup)
    (hruled : Ruled partition pass done state.decisions)
    (hpass : pass = .training) (hvalid : partition.valid)
    (hcandidate : candidate ∈ partition.decided pass)
    (hwaiting : candidate.task.isScheduled = false) {victims : List Holder}
    (hvictims : victims ⊆ state.holders)
    (hbelow : ∀ victim ∈ victims,
      victim.priority < candidate.prepared.effectivePriority)
    {chosen : List NodeName}
    (hused : ∀ victim ∈ victims, ∃ name ∈ chosen, name ∈ victim.nodes)
    (hstart : ∀ rows,
      Ruling partition pass rows candidate
        (MatchState.startedRow partition.group candidate.task chosen)) :
    Ruled partition pass (done ++ [candidate])
      ((state.dismissAll candidate.id victims).decisions ++
        [MatchState.startedRow partition.group candidate.task chosen]) := by
  rw [MatchState.decisions_dismissAll]
  intro row hrow
  rcases List.mem_append.mp hrow with hearlier | hlast
  · obtain ⟨before, hbefore, rfl⟩ := List.mem_map.mp hearlier
    by_cases hvictim : before.id ∈ victims.map Holder.id
    · obtain ⟨victim, hmem, hid⟩ := List.mem_map.mp hvictim
      obtain ⟨kept, hkept, rfl, hscheduled, hrunning, rfl⟩ :=
        htracks.row_of_holder hdone (hvictims hmem) hbefore hid.symm
      obtain ⟨name, hchosen, hlisted⟩ :=
        hused (MatchState.holderOf kept.prepared) hmem
      have hlower : kept.prepared.effectivePriority <
          candidate.prepared.effectivePriority :=
        hbelow (MatchState.holderOf kept.prepared) hmem
      rw [if_pos hvictim, MatchState.markPreempted_withDecision]
      refine ⟨kept, List.mem_append_left _ hkept, ?_⟩
      exact .preempted hscheduled hrunning hpass hvalid hcandidate hwaiting
        hlower (List.mem_append_right _ (List.mem_singleton_self _)) hchosen
        hlisted
    · obtain ⟨ruled, hmem, hruling⟩ := hruled before hbefore
      rw [if_neg hvictim]
      refine ⟨ruled, List.mem_append_left _ hmem, hruling.mono ?_⟩
      -- No victim has started in this pass: its row said that it keeps its
      -- nodes.
      intro started hstarted hstartup
      refine List.mem_append_left _
        (List.mem_map.mpr ⟨started, hstarted, if_neg ?_⟩)
      intro hstartedVictim
      obtain ⟨victim, hmem, hid⟩ := List.mem_map.mp hstartedVictim
      obtain ⟨kept, -, -, -, -, rfl⟩ :=
        htracks.row_of_holder hdone (hvictims hmem) hstarted hid.symm
      cases hstartup
  · rw [List.mem_singleton.mp hlast]
    exact ⟨candidate, List.mem_append_right _ (List.mem_singleton_self _),
      hstart _⟩

/-- Every turn makes rulings of the rows. -/
theorem Tracks.ruled_turn (htracks : partition.Tracks done state)
    (hsound : partition.Sound pass) (hdone : (done.map Candidate.id).Nodup)
    (hruled : Ruled partition pass done state.decisions)
    (hcandidate : candidate ∈ partition.decided pass)
    (hturn : MatchState.Turn pass partition.valid state candidate next) :
    Ruled partition pass (done ++ [candidate]) next.decisions := by
  cases hturn with
  | keep hscheduled hrunning =>
    rw [MatchState.keep_eq]
    exact hruled.append (.kept hscheduled hrunning)
  | suspend hscheduled hrunning =>
    rw [MatchState.suspend_eq]
    exact hruled.append (.suspended hscheduled hrunning)
  | reject hwaiting hlarge =>
    rw [MatchState.isInfeasible, htracks.active_eq, decide_eq_true_eq] at hlarge
    rw [MatchState.rejectInfeasible_eq, htracks.group_eq, htracks.active_eq]
    exact hruled.append (.infeasible hwaiting hlarge)
  | holdBack hwaiting hfits hadmission =>
    rw [MatchState.isInfeasible, htracks.active_eq, decide_eq_false_iff_not,
      Nat.not_lt] at hfits
    rw [MatchState.holdBack_eq]
    exact hruled.append (.heldBack hwaiting hfits hadmission)
  | start hwaiting hplaceable hlength hfree =>
    rw [MatchState.start_eq]
    exact hruled.append
      (htracks.ruling_start hsound hwaiting hplaceable hlength hfree _)
  | preempt hwaiting hplaceable hpass hvalid _ hvictims hbelow hlength hfree
      hused =>
    have hdismissed := htracks.dismissAll hdone candidate.id hvictims.subset
    have hstart :=
      hdismissed.ruling_start hsound hwaiting
        (hdismissed.isPlaceable_iff.mpr (htracks.isPlaceable_iff.mp hplaceable))
        hlength hfree
    rw [MatchState.start_eq, hdismissed.group_eq]
    rw [hdismissed.group_eq] at hstart
    exact htracks.ruled_dismissAll hdone hruled hpass hvalid hcandidate hwaiting
      hvictims.subset hbelow hused hstart
  | wait hwaiting hplaceable hshort =>
    obtain ⟨hfits, hadmission⟩ := htracks.isPlaceable_iff.mp hplaceable
    rw [MatchState.wait_eq, htracks.group_eq]
    exact hruled.append (.waiting hwaiting hfits hadmission hshort)

end Rulings

section Run

variable {partition : Partition} {pass : MatchPass}

/-- A walk that is tracked goes on with a turn. -/
theorem Tracks.turn_walk {done : List Candidate} {candidate : Candidate}
    (htracks : partition.Tracks done (partition.walk pass done))
    (hsound : partition.Sound pass) (hdone : done ⊆ partition.decided pass)
    (hdistinct : (done.map Candidate.id).Nodup) :
    MatchState.Turn pass partition.valid (partition.walk pass done) candidate
      (partition.walk pass (done ++ [candidate])) := by
  rw [walk_append_singleton]
  exact MatchState.turn_attend htracks.coherent
    (htracks.soundHolders hsound hdone) (htracks.nodup_rows hdistinct)

/-- The walk is tracked to its end, and what it decides are rulings. -/
theorem tracks_walk (hsound : partition.Sound pass) {done : List Candidate}
    (hdone : done ⊆ partition.decided pass)
    (hdistinct : (done.map Candidate.id).Nodup) :
    partition.Tracks done (partition.walk pass done) ∧
      Ruled partition pass done (partition.walk pass done).decisions := by
  induction done using List.reverseRecOn with
  | nil => exact ⟨tracks_opening hsound.names, ruled_opening⟩
  | append_singleton done candidate ih =>
    have hcandidate : candidate ∈ partition.decided pass := hdone (by simp)
    have hearlier : done ⊆ partition.decided pass := fun _ hmem =>
      hdone (List.mem_append_left _ hmem)
    rw [List.map_append, List.nodup_append'] at hdistinct
    obtain ⟨hdistinct, -, hfresh⟩ := hdistinct
    have hnew : candidate.id ∉ done.map Candidate.id :=
      fun hmem => hfresh hmem (by simp)
    obtain ⟨htracks, hruled⟩ := ih hearlier hdistinct
    have hturn : MatchState.Turn pass partition.valid (partition.walk pass done)
        candidate (partition.walk pass (done ++ [candidate])) :=
      htracks.turn_walk hsound hearlier hdistinct
    exact ⟨htracks.turn hsound hdistinct hcandidate hnew hturn,
      htracks.ruled_turn hsound hdistinct hruled hcandidate hturn⟩

/-- What the outcome of a pass says. -/
structure Settles (partition : Partition) (pass : MatchPass)
    (outcome : MatchOutcome) : Prop where
  /-- Every task of the pass has one row. -/
  ids :
    (outcome.tasks.map Task.id).Perm ((partition.decided pass).map Candidate.id)
  ruled : Ruled partition pass (partition.decided pass) outcome.tasks
  names : (outcome.nodes.map Node.name).Nodup
  /-- The nodes are those of the partition but for their occupants. -/
  frame : ∀ vacant, vacant ∈ outcome.nodes.map Node.vacated ↔
    vacant ∈ partition.nodes.map Node.vacated
  /-- A node is occupied as the rows say, or as before by a task that the pass
  has not decided on. -/
  occupied : ∀ node ∈ outcome.nodes, ∀ id,
    node.working = some id ↔
      (∃ row ∈ outcome.tasks, row.id = id ∧ row.isHolding ∧
          node.name ∈ row.assignedNodes) ∨
        id ∉ (partition.decided pass).map Candidate.id ∧
          ∃ before ∈ partition.nodes, before.name = node.name ∧
            before.working = some id

theorem settles_run (hsound : partition.Sound pass) :
    partition.Settles pass (partition.run pass) := by
  have hagenda := partition.agenda_perm pass
  have hids : ((partition.agenda pass).map Candidate.id).Perm
      ((partition.decided pass).map Candidate.id) := hagenda.map _
  obtain ⟨htracks, hruled⟩ :=
    tracks_walk hsound hagenda.subset hsound.nodup_agenda
  rw [run_eq]
  refine ⟨?_, ?_, ?_, ?_, ?_⟩
  · rw [MatchState.outcome, htracks.ids]
    exact hids
  · intro row hrow
    obtain ⟨candidate, hcandidate, hruling⟩ := hruled row hrow
    exact ⟨candidate, hagenda.mem_iff.mp hcandidate, hruling⟩
  · rw [MatchState.outcome, List.map_map]
    exact htracks.coherent.distinct
  · intro vacant
    rw [MatchState.outcome, List.map_map, ← mem_opening_frame_iff hsound.names,
      ← htracks.frame]
    rfl
  · intro node hnode id
    obtain ⟨place, hplace, rfl⟩ := List.mem_map.mp hnode
    rw [← htracks.coherent.occupies_iff hplace, htracks.occupied, hids.mem_iff,
      opening_occupies_iff hsound.names]
    have hname :
        place.node.name ∈ (partition.walk pass (partition.agenda pass)).names :=
      List.mem_map_of_mem hplace
    simp [hname, MatchState.outcome]

/-- A pass without tasks leaves the nodes alone. -/
theorem run_nodes_of_idle (hnone : partition.decided pass = [])
    (hordered : partition.nodes.Pairwise fun left right =>
      compare left.name right.name = .lt) :
    (partition.run pass).nodes = partition.nodes := by
  have hagenda : partition.agenda pass = [] := by
    have hperm := partition.agenda_perm pass
    rwa [hnone, List.perm_nil] at hperm
  have hopening : partition.opening.outcome.nodes =
      OrderedMap.lastRows Node.name partition.nodes := by
    simp [opening, MatchState.outcome, MatchState.ofNodes, Function.comp_def]
  rw [run_eq, hagenda]
  exact hopening.trans (OrderedMap.lastRows_of_ordered hordered)

end Run

end Partition

end ClusterTick