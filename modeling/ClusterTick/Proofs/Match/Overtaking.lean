import ClusterTick.Proofs.Match.Reach

/-!
# Who is overtaken in the queue

The queue goes on past a task that finds no room, so a later task may start
while an earlier one waits.  Whatever the later task takes was within reach of
the earlier one at that moment, and that was too little for the earlier one
already when it was turned away.  So only a smaller task can overtake.
-/

namespace ClusterTick

/-- The order of admission in full: the more urgent task first, among equals the
one with the greater rank, then the older one, then the one with the smaller
number. -/
def PreparedTask.AheadOf (left right : PreparedTask) : Prop :=
  right.effectivePriority < left.effectivePriority ∨
    left.effectivePriority = right.effectivePriority ∧
      (right.rankKey < left.rankKey ∨
        left.rankKey = right.rankKey ∧
          (left.task.createdSeconds < right.task.createdSeconds ∨
            left.task.createdSeconds = right.task.createdSeconds ∧
              left.id.value < right.id.value))

instance (left right : PreparedTask) : Decidable (left.AheadOf right) :=
  inferInstanceAs (Decidable (_ ∨ _ ∧ (_ ∨ _ ∧ (_ ∨ _ ∧ _))))

/-- The queue is in the order of admission. -/
theorem Candidate.compareQueue_eq_lt_iff {left right : Candidate} :
    left.compareQueue right = .lt ↔ left.prepared.AheadOf right.prepared := by
  have hid : compare left.id right.id = .lt ↔
      left.prepared.id.value < right.prepared.id.value :=
    @Std.compare_eq_lt UInt64 _ _ _ _ _ _ _
  simp only [compareQueue, PreparedTask.compareRank, Ordering.then_eq_lt,
    Ordering.then_eq_eq, Std.compare_eq_lt, Std.compare_eq_iff_eq, hid,
    PreparedTask.AheadOf, task]
  grind

namespace MatchState

variable {pass : MatchPass} {valid : Bool} {state next : MatchState}
  {candidate : Candidate}

/-- A task that starts has found its nodes within the reach of every task that
is at least as urgent. -/
theorem Turn.nodes_le_reachable (hturn : Turn pass valid state candidate next)
    (hstate : state.Coherent) {row : Task} (hrow : row ∈ next.decisions)
    (hfresh : row.id ∉ state.decisions.map Task.id)
    (hstartup : row.processResult = .startup) {priority : Int32}
    (hbelow : candidate.prepared.effectivePriority ≤ priority) :
    candidate.task.nodes.toNat ≤
      (state.reachable (pass.preempts valid) priority).length := by
  have hlast :
      ∀ {last : Task}, row ∈ state.decisions ++ [last] → row = last := by
    intro last hmem
    rcases List.mem_append.mp hmem with hbefore | hrecorded
    · exact absurd (List.mem_map_of_mem hbefore) hfresh
    · exact List.mem_singleton.mp hrecorded
  cases hturn with
  | keep =>
    rw [keep_eq] at hrow
    rw [hlast hrow] at hstartup
    cases hstartup
  | suspend | reject | holdBack | wait =>
    rw [hlast hrow] at hstartup
    cases hstartup
  | start _ _ hlength hfree =>
    rw [← hlength, reachable, List.length_append]
    exact Nat.le_trans hfree.length_le (Nat.le_add_right _ _)
  | @preempt victims chosen _ _ hpass hvalid _ hvictims hlower hlength hfree =>
    have hyield : victims ⊆ state.yielding (pass.preempts valid) priority := by
      intro victim hvictim
      apply mem_yielding_iff.mpr
      exact ⟨by simp [MatchPass.preempts, hpass, hvalid],
        hvictims.subset hvictim,
        Int32.lt_of_lt_of_le (hlower victim hvictim) hbelow⟩
    have hfreed :
        (state.dismissAll candidate.id victims).freeNodes.map Node.name ⊆
          state.reachable (pass.preempts valid) priority := by
      intro name hname
      apply reachable_dismissAll_subset hstate hyield
      exact mem_reachable_iff.mpr (Or.inl hname)
    have hdismissed : (state.dismissAll candidate.id victims).Coherent :=
      coherent_dismissAll hstate victims
    calc
      candidate.task.nodes.toNat = chosen.length := hlength.symm
      _ ≤
          ((state.dismissAll candidate.id victims).freeNodes.map
            Node.name).length :=
        hfree.length_le
      _ ≤ (state.reachable (pass.preempts valid) priority).length :=
        (List.subperm_of_subset (nodup_freeNodes hdismissed) hfreed).length_le

end MatchState

namespace Partition

variable {partition : Partition} {pass : MatchPass}

/-- A row that is not a suspension has stood since the turn of its task. -/
theorem mem_walk_of_mem_walk_append (hsound : partition.Sound pass)
    {done rest : List Candidate}
    (hdecided : done ++ rest ⊆ partition.decided pass)
    (hdistinct : ((done ++ rest).map Candidate.id).Nodup) {row : Task}
    (hrow : row ∈ (partition.walk pass (done ++ rest)).decisions)
    (hnot : row.processResult ≠ .suspend)
    (hearlier : row.id ∉ rest.map Candidate.id) :
    row ∈ (partition.walk pass done).decisions := by
  induction rest using List.reverseRecOn with
  | nil => simpa using hrow
  | append_singleton rest candidate ih =>
    rw [← List.append_assoc] at hdecided hdistinct hrow
    have hbefore : done ++ rest ⊆ partition.decided pass := fun _ hmem =>
      hdecided (List.mem_append_left _ hmem)
    have hbeforeIds := hdistinct.sublist
      ((List.sublist_append_left (done ++ rest) [candidate]).map Candidate.id)
    rw [List.map_append, List.mem_append, not_or] at hearlier
    have hturn : MatchState.Turn pass partition.valid
        (partition.walk pass (done ++ rest)) candidate
        (partition.walk pass (done ++ rest ++ [candidate])) :=
      (tracks_walk hsound hbefore hbeforeIds).1.turn_walk hsound hbefore
        hbeforeIds
    rcases hturn.of_not_suspended hrow hnot with hstood | hdecides
    · exact ih hbefore hbeforeIds hstood.1 hearlier.1
    · have hid : row.id = candidate.id := Task.id_eq_of_request hdecides.request
      simp [hid] at hearlier

/-- A task that is ahead of another one in the queue has its turn before it. -/
theorem exists_turn_order {waiter starter : Candidate}
    (hwaiter : waiter ∈ partition.queue pass)
    (hstarter : starter ∈ partition.queue pass)
    (hahead : waiter.compareQueue starter = .lt) :
    ∃ done rest, partition.agenda pass = done ++ starter :: rest ∧
      waiter ∈ done := by
  obtain ⟨front, back, hqueue⟩ := List.append_of_mem hstarter
  have hsorted : (front ++ starter :: back).Pairwise
      fun left right => (left.compareQueue right).isLE := by
    rw [← hqueue]
    exact pairwise_mergeSort_isLE Candidate.compareQueue _
  refine ⟨partition.holding pass ++
      ((partition.waiting pass).filter fun candidate =>
        !partition.opening.isPlaceable candidate) ++
      front, back, ?_, List.mem_append_right _ ?_⟩
  · rw [agenda, hqueue]
    simp only [List.append_assoc]
  · have hgt : starter.compareQueue waiter = .gt :=
      Std.OrientedCmp.gt_iff_lt.mpr hahead
    rw [hqueue, List.mem_append, List.mem_cons] at hwaiter
    rcases hwaiter with hfront | rfl | hback
    · exact hfront
    · have hself : waiter.compareQueue waiter = .eq := Std.ReflCmp.compare_self
      rw [hself] at hahead
      cases hahead
    · have hle :=
        (List.pairwise_cons.mp (List.pairwise_append.mp hsorted).2.1).1 waiter
          hback
      rw [hgt] at hle
      cases hle

/-- A row of a pass that is not a suspension has stood since the turn of its
task. -/
theorem mem_walk_of_mem_run (hsound : partition.Sound pass)
    {done rest : List Candidate}
    (hagenda : partition.agenda pass = done ++ rest) {candidate : Candidate}
    (hdone : candidate ∈ done) {row : Task}
    (hrow : row ∈ (partition.run pass).tasks) (hid : row.id = candidate.id)
    (hnot : row.processResult ≠ .suspend) :
    row ∈ (partition.walk pass done).decisions := by
  have hdecided := (partition.agenda_perm pass).subset
  have hids := hsound.nodup_agenda
  rw [hagenda] at hdecided hids
  rw [run_eq, hagenda] at hrow
  apply mem_walk_of_mem_walk_append hsound hdecided hids hrow hnot
  rw [List.map_append, List.nodup_append'] at hids
  rw [hid]
  exact fun hrest => hids.2.2 (List.mem_map_of_mem hdone) hrest

/-- Once its turn has left a task waiting, too little is within its reach. -/
theorem length_reachable_lt_of_waiting (hsound : partition.Sound pass)
    {done rest : List Candidate}
    (hagenda : partition.agenda pass = done ++ rest) {waiter : Candidate}
    (hdone : waiter ∈ done) {row : Task}
    (hrow : row ∈ (partition.run pass).tasks) (hid : row.id = waiter.id)
    (hwaiting : row.isWaiting) :
    ((partition.walk pass done).reachable (pass.preempts partition.valid)
        waiter.prepared.effectivePriority).length <
      waiter.task.nodes.toNat := by
  obtain ⟨hdecided, hdistinct, hordered⟩ := hsound.firstTurns hagenda
  have hnot : row.processResult ≠ .suspend := by
    intro hsuspended
    simp [Task.isWaiting, hsuspended] at hwaiting
  have hstood : row ∈ (partition.walk pass done).decisions :=
    mem_walk_of_mem_run hsound hagenda hdone hrow hid hnot
  obtain ⟨earlier, hearlier, hrequest, -, -, hshort⟩ :=
    (stands_walk hsound hdecided hdistinct hordered).waiting row hstood hwaiting
  have hsame : earlier.id = waiter.id :=
    (Task.id_eq_of_request hrequest).symm.trans hid
  rwa [List.inj_on_of_nodup_map hdistinct hearlier hdone hsame] at hshort

/-- At its turn a task that starts finds its nodes within the reach of every
task that is at least as urgent. -/
theorem nodes_le_reachable_of_startup (hsound : partition.Sound pass)
    {done rest : List Candidate} {starter : Candidate}
    (hagenda : partition.agenda pass = done ++ starter :: rest) {row : Task}
    (hrow : row ∈ (partition.run pass).tasks) (hid : row.id = starter.id)
    (hstartup : row.processResult = .startup) {priority : Int32}
    (hbelow : starter.prepared.effectivePriority ≤ priority) :
    starter.task.nodes.toNat ≤
      ((partition.walk pass done).reachable (pass.preempts partition.valid)
        priority).length := by
  have hturn : partition.agenda pass = (done ++ [starter]) ++ rest := by
    simp [hagenda]
  obtain ⟨-, hdistinct, -⟩ := hsound.firstTurns hturn
  obtain ⟨hearlier, hdoneIds, -⟩ := hsound.firstTurns hagenda
  have hstood : row ∈ (partition.walk pass (done ++ [starter])).decisions :=
    mem_walk_of_mem_run hsound hturn (by simp) hrow hid (by simp [hstartup])
  obtain ⟨htracks, -⟩ := tracks_walk hsound hearlier hdoneIds
  rw [List.map_append, List.nodup_append'] at hdistinct
  have hfresh : row.id ∉ (partition.walk pass done).decisions.map Task.id := by
    rw [htracks.ids, hid]
    exact fun hmem => hdistinct.2.2 hmem (by simp)
  exact (htracks.turn_walk hsound hearlier hdoneIds).nodes_le_reachable
    htracks.coherent hstood hfresh hstartup hbelow

/-- A task that overtakes a waiting one asks for fewer nodes. -/
theorem nodes_lt_of_overtaken (hsound : partition.Sound pass)
    {waiter starter : Candidate} (hwaiter : waiter ∈ partition.queue pass)
    (hstarter : starter ∈ partition.queue pass)
    (hahead : waiter.compareQueue starter = .lt) {waiting started : Task}
    (hwaitingRow : waiting ∈ (partition.run pass).tasks)
    (hwaitingId : waiting.id = waiter.id) (hwaiting : waiting.isWaiting)
    (hstartedRow : started ∈ (partition.run pass).tasks)
    (hstartedId : started.id = starter.id)
    (hstartup : started.processResult = .startup) :
    starter.task.nodes < waiter.task.nodes := by
  obtain ⟨done, rest, hagenda, hdone⟩ :=
    exists_turn_order hwaiter hstarter hahead
  have hbelow : starter.prepared.effectivePriority ≤
      waiter.prepared.effectivePriority := by
    apply Candidate.priority_le_of_compareQueue
    rw [hahead]
    rfl
  apply UInt32.lt_iff_toNat_lt.mpr
  calc
    starter.task.nodes.toNat
      ≤ ((partition.walk pass done).reachable (pass.preempts partition.valid)
          waiter.prepared.effectivePriority).length :=
        nodes_le_reachable_of_startup hsound hagenda hstartedRow hstartedId
          hstartup hbelow
    _ < waiter.task.nodes.toNat :=
        length_reachable_lt_of_waiting hsound hagenda hdone hwaitingRow
          hwaitingId hwaiting

end Partition

end ClusterTick
