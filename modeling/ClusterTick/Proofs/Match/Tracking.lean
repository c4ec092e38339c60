import ClusterTick.Proofs.Match.Walk

/-!
# Occupancy during a pass

`Partition.Tracks` is kept by every turn of a pass: the rows decided so far are
those of the tasks that have had their turn, and a node is occupied by the task
of a row that holds it, or as before by a task whose turn has not come.
-/

namespace ClusterTick

/-- What a pass may rely on about the partition that it is given. -/
structure Partition.Sound (partition : Partition) (pass : MatchPass) :
    Prop where
  /-- No node is there twice. -/
  names : (partition.nodes.map Node.name).Nodup
  /-- No task of the pass is there twice. -/
  ids : ((partition.decided pass).map Candidate.id).Nodup
  /-- A task of the pass that holds a node is scheduled and lists the node. -/
  occupant : ∀ node ∈ partition.nodes, ∀ candidate ∈ partition.decided pass,
    node.working = some candidate.id →
      candidate.task.isScheduled ∧ node.name ∈ candidate.task.assignedNodes
  /-- A task that may keep its nodes holds those that it lists, and lists them
  once. -/
  undisputed : ∀ candidate ∈ partition.decided pass,
    candidate.task.isScheduled → candidate.verdict.running = .approved →
    ∀ node ∈ partition.nodes, node.name ∈ candidate.task.assignedNodes →
    node.working = some candidate.id ∧
      candidate.task.assignedNodes.count node.name = 1

namespace Partition

/-- Every turn of a pass is that of another task. -/
theorem Sound.nodup_agenda {partition : Partition} {pass : MatchPass}
    (hsound : partition.Sound pass) :
    ((partition.agenda pass).map Candidate.id).Nodup :=
  ((partition.agenda_perm pass).map Candidate.id).nodup_iff.mpr hsound.ids

/-- How far a pass has come. -/
structure Tracks (partition : Partition) (done : List Candidate)
    (state : MatchState) : Prop where
  header : state.header = (partition.group, partition.nodes.length)
  coherent : state.Coherent
  frame : state.frame = partition.opening.frame
  ids : state.decisions.map Task.id = done.map Candidate.id
  holders : (state.holders.map Holder.id).Nodup
  /-- A holder is a task that was kept, and its row still says so. -/
  kept : ∀ holder ∈ state.holders,
    ∃ candidate ∈ done, holder = MatchState.holderOf candidate.prepared ∧
      candidate.task.isScheduled ∧ candidate.verdict.running = .approved ∧
      candidate.task.withDecision .keepRunning .canRun "" ∈ state.decisions
  /-- The nodes are occupied as the rows say, and as before by all other
  tasks. -/
  occupied : ∀ id name,
    state.Occupies id name ↔
      (∃ row ∈ state.decisions, row.id = id ∧ row.isHolding ∧
          name ∈ row.assignedNodes ∧ name ∈ state.names) ∨
        id ∉ done.map Candidate.id ∧ partition.opening.Occupies id name

section Opening

variable {partition : Partition}

theorem mem_opening_pool_iff (hnames : (partition.nodes.map Node.name).Nodup)
    {node : Node} :
    (∃ place ∈ partition.opening.pool, place.node = node) ↔
      node ∈ partition.nodes := by
  simp only [opening, MatchState.ofNodes, List.mem_map]
  constructor
  · rintro ⟨place, ⟨row, hrow, rfl⟩, rfl⟩
    exact (OrderedMap.mem_lastRows_of_nodup hnames).mp hrow
  · intro hnode
    exact ⟨_, ⟨node, (OrderedMap.mem_lastRows_of_nodup hnames).mpr hnode, rfl⟩,
      rfl⟩

theorem mem_opening_names_iff (hnames : (partition.nodes.map Node.name).Nodup)
    {name : NodeName} :
    name ∈ partition.opening.names ↔ name ∈ partition.nodes.map Node.name := by
  simp only [MatchState.names, List.mem_map]
  constructor
  · rintro ⟨place, hplace, rfl⟩
    exact ⟨_, (mem_opening_pool_iff hnames).mp ⟨place, hplace, rfl⟩, rfl⟩
  · rintro ⟨node, hnode, rfl⟩
    obtain ⟨place, hplace, rfl⟩ := (mem_opening_pool_iff hnames).mpr hnode
    exact ⟨place, hplace, rfl⟩

theorem opening_occupies_iff (hnames : (partition.nodes.map Node.name).Nodup)
    {id : TaskId} {name : NodeName} :
    partition.opening.Occupies id name ↔
      ∃ node ∈ partition.nodes, node.name = name ∧ node.working = some id := by
  constructor
  · rintro ⟨place, hplace, hname, hworking⟩
    exact ⟨_, (mem_opening_pool_iff hnames).mp ⟨place, hplace, rfl⟩, hname,
      hworking⟩
  · rintro ⟨node, hnode, hname, hworking⟩
    obtain ⟨place, hplace, rfl⟩ := (mem_opening_pool_iff hnames).mpr hnode
    exact ⟨place, hplace, hname, hworking⟩

theorem opening_isReadyName_iff (hnames : (partition.nodes.map Node.name).Nodup)
    {name : NodeName} : partition.opening.IsReadyName name ↔
      ∃ node ∈ partition.nodes, node.name = name ∧ node.isReady := by
  rw [MatchState.isReadyName_iff]
  constructor
  · rintro ⟨place, hplace, hname, hready⟩
    exact ⟨_, (mem_opening_pool_iff hnames).mp ⟨place, hplace, rfl⟩, hname,
      hready⟩
  · rintro ⟨node, hnode, hname, hready⟩
    obtain ⟨place, hplace, rfl⟩ := (mem_opening_pool_iff hnames).mpr hnode
    exact ⟨place, hplace, hname, hready⟩

theorem mem_opening_frame_iff (hnames : (partition.nodes.map Node.name).Nodup)
    {vacant : Node} :
    vacant ∈ partition.opening.frame ↔
      vacant ∈ partition.nodes.map Node.vacated := by
  simp only [MatchState.frame, List.mem_map]
  constructor
  · rintro ⟨place, hplace, rfl⟩
    exact ⟨_, (mem_opening_pool_iff hnames).mp ⟨place, hplace, rfl⟩, rfl⟩
  · rintro ⟨node, hnode, rfl⟩
    obtain ⟨place, hplace, rfl⟩ := (mem_opening_pool_iff hnames).mpr hnode
    exact ⟨place, hplace, rfl⟩

theorem coherent_opening (hnames : (partition.nodes.map Node.name).Nodup) :
    partition.opening.Coherent where
  distinct := by
    have hsame : partition.opening.names =
        (OrderedMap.lastRows Node.name partition.nodes).map Node.name := by
      simp [MatchState.names, opening, MatchState.ofNodes, Function.comp_def]
    rw [hsame]
    exact OrderedMap.nodup_map_of_ordered OrderedMap.lastRows_ordered
  isOpen := by
    intro place hplace
    obtain ⟨node, hnode, rfl⟩ := List.mem_map.mp hplace
    have hmem := (OrderedMap.mem_lastRows_of_nodup hnames).mp hnode
    rw [Bool.eq_iff_iff, List.any_eq_true, Bool.and_eq_true]
    constructor
    · rintro ⟨row, hrow, hopen⟩
      rw [decide_eq_true_eq] at hopen
      rw [List.inj_on_of_nodup_map hnames hrow hmem hopen.1] at hopen
      exact hopen.2
    · intro hopen
      exact ⟨node, hmem, by simpa using hopen⟩

theorem tracks_opening (hnames : (partition.nodes.map Node.name).Nodup) :
    partition.Tracks [] partition.opening where
  header := rfl
  coherent := coherent_opening hnames
  frame := rfl
  ids := rfl
  holders := List.nodup_nil
  kept := nofun
  occupied := by
    intro id name
    simp [opening, MatchState.ofNodes]

end Opening

section Step

variable {partition : Partition} {pass : MatchPass} {done : List Candidate}
variable {state next : MatchState} {candidate : Candidate}

theorem Tracks.names (htracks : partition.Tracks done state) :
    state.names = partition.opening.names :=
  MatchState.names_of_frame htracks.frame

/-- A task whose turn has not come holds what it held before. -/
theorem Tracks.occupies_fresh_iff (htracks : partition.Tracks done state)
    {id : TaskId} (hfresh : id ∉ done.map Candidate.id) {name : NodeName} :
    state.Occupies id name ↔ partition.opening.Occupies id name := by
  rw [htracks.occupied]
  constructor
  · rintro (⟨row, hrow, rfl, -⟩ | h)
    · exact absurd (htracks.ids ▸ List.mem_map_of_mem hrow) hfresh
    · exact h.2
  · exact fun h => Or.inr ⟨hfresh, h⟩

/-- A node of a task whose turn has not come is one that the task lists. -/
theorem Tracks.listed_of_occupies (htracks : partition.Tracks done state)
    (hsound : partition.Sound pass)
    (hcandidate : candidate ∈ partition.decided pass)
    (hfresh : candidate.id ∉ done.map Candidate.id) {name : NodeName}
    (hoccupies : state.Occupies candidate.id name) :
    candidate.task.isScheduled ∧ name ∈ candidate.task.assignedNodes := by
  rw [htracks.occupies_fresh_iff hfresh,
    opening_occupies_iff hsound.names] at hoccupies
  obtain ⟨node, hnode, rfl, hworking⟩ := hoccupies
  exact hsound.occupant node hnode candidate hcandidate hworking

/-- A task that may keep its nodes holds all that it lists until its turn
comes. -/
theorem Tracks.occupies_approved_iff (htracks : partition.Tracks done state)
    (hsound : partition.Sound pass)
    (hcandidate : candidate ∈ partition.decided pass)
    (hfresh : candidate.id ∉ done.map Candidate.id)
    (hscheduled : candidate.task.isScheduled)
    (hrunning : candidate.verdict.running = .approved) {name : NodeName} :
    state.Occupies candidate.id name ↔
      name ∈ candidate.task.assignedNodes ∧ name ∈ state.names := by
  constructor
  · intro hoccupies
    exact ⟨(htracks.listed_of_occupies hsound hcandidate hfresh hoccupies).2,
      hoccupies.mem_names⟩
  · rintro ⟨hlisted, hname⟩
    rw [htracks.names, mem_opening_names_iff hsound.names] at hname
    obtain ⟨node, hnode, rfl⟩ := List.mem_map.mp hname
    rw [htracks.occupies_fresh_iff hfresh, opening_occupies_iff hsound.names]
    exact ⟨node, hnode, rfl,
      (hsound.undisputed candidate hcandidate hscheduled hrunning node hnode
        hlisted).1⟩

theorem Tracks.nodup_rows (htracks : partition.Tracks done state)
    (hdone : (done.map Candidate.id).Nodup) :
    (state.decisions.map Task.id).Nodup := by
  rwa [htracks.ids]

/-- The holders may be counted on. -/
theorem Tracks.soundHolders (htracks : partition.Tracks done state)
    (hsound : partition.Sound pass) (hdone : done ⊆ partition.decided pass) :
    state.SoundHolders where
  distinct := htracks.holders
  listedOnce := by
    intro holder hholder name hname
    obtain ⟨kept, hkept, rfl, hscheduled, hrunning, -⟩ :=
      htracks.kept holder hholder
    rw [htracks.names, mem_opening_names_iff hsound.names] at hname
    obtain ⟨node, hnode, rfl⟩ := List.mem_map.mp hname
    by_cases hlisted : node.name ∈ kept.task.assignedNodes
    · exact Nat.le_of_eq (hsound.undisputed kept (hdone hkept) hscheduled
        hrunning node hnode hlisted).2
    · exact Nat.le_trans (Nat.le_of_eq (List.count_eq_zero.mpr hlisted))
        (Nat.zero_le 1)

/-- A holder is a task that has had its turn. -/
theorem Tracks.id_of_holder (htracks : partition.Tracks done state)
    {holder : Holder} (hholder : holder ∈ state.holders) :
    holder.id ∈ done.map Candidate.id := by
  obtain ⟨kept, hkept, rfl, -⟩ := htracks.kept holder hholder
  exact List.mem_map_of_mem hkept

/-- The row of a task is the new one if there was none before. -/
theorem exists_row_append_iff {rows : List Task} {row : Task}
    (hfresh : row.id ∉ rows.map Task.id) {id : TaskId} {holds : Task → Prop} :
    (∃ other ∈ rows ++ [row], other.id = id ∧ holds other) ↔
      if id = row.id then holds row
      else ∃ other ∈ rows, other.id = id ∧ holds other := by
  simp only [List.mem_append, List.mem_singleton, or_and_right, exists_or,
    exists_eq_left]
  split
  case isTrue hid =>
    have hnone : ¬ ∃ other ∈ rows, other.id = id ∧ holds other := by
      rintro ⟨other, hother, hotherId, -⟩
      exact hfresh (hid ▸ hotherId ▸ List.mem_map_of_mem hother)
    rw [or_iff_right hnone, and_iff_right hid.symm]
  case isFalse hid =>
    exact or_iff_left fun hown => hid hown.1.symm

/-- One more row is tracked if the pool changes for its task only, and as the
row says. -/
theorem Tracks.extend (htracks : partition.Tracks done state)
    (hfresh : candidate.id ∉ done.map Candidate.id) {row : Task}
    (hdecisions : next.decisions = state.decisions ++ [row])
    (hrow : row.id = candidate.id) (hheader : next.header = state.header)
    (hcoherent : next.Coherent) (hframe : next.frame = state.frame)
    (hholders : next.holders = state.holders ∨
      next.holders = state.holders ++ [MatchState.holderOf candidate.prepared] ∧
        candidate.task.isScheduled ∧ candidate.verdict.running = .approved ∧
        row = candidate.task.withDecision .keepRunning .canRun "")
    (hothers : ∀ id name, id ≠ candidate.id →
      (next.Occupies id name ↔ state.Occupies id name))
    (hown : ∀ name,
      next.Occupies candidate.id name ↔
        row.isHolding ∧ name ∈ row.assignedNodes ∧ name ∈ state.names) :
    partition.Tracks (done ++ [candidate]) next where
  header := hheader.trans htracks.header
  coherent := hcoherent
  frame := hframe.trans htracks.frame
  ids := by
    rw [hdecisions, List.map_append, List.map_append, htracks.ids,
      List.map_singleton, List.map_singleton, hrow]
  holders := by
    rcases hholders with hsame | ⟨hmore, -⟩
    · rw [hsame]
      exact htracks.holders
    · have hnew : ∀ holder ∈ state.holders, holder.id ≠ candidate.id := by
        intro holder hholder hid
        exact hfresh (hid ▸ htracks.id_of_holder hholder)
      rw [hmore, List.map_append, List.nodup_append']
      refine ⟨htracks.holders, List.nodup_singleton _, ?_⟩
      simpa [MatchState.holderOf, Candidate.id] using hnew
  kept := by
    have hearlier : ∀ holder ∈ state.holders, ∃ kept ∈ done ++ [candidate],
        holder = MatchState.holderOf kept.prepared ∧ kept.task.isScheduled ∧
          kept.verdict.running = .approved ∧
          kept.task.withDecision .keepRunning .canRun "" ∈ next.decisions := by
      intro holder hholder
      obtain ⟨kept, hkept, heq, hscheduled, hrunning, hkeptRow⟩ :=
        htracks.kept holder hholder
      refine ⟨kept, List.mem_append_left _ hkept, heq, hscheduled, hrunning, ?_⟩
      rw [hdecisions]
      exact List.mem_append_left _ hkeptRow
    intro holder hholder
    rcases hholders with hsame | ⟨hmore, hscheduled, hrunning, hkeptRow⟩
    · exact hearlier holder (hsame ▸ hholder)
    · rw [hmore, List.mem_append, List.mem_singleton] at hholder
      rcases hholder with hholder | rfl
      · exact hearlier holder hholder
      · refine ⟨candidate, by simp, rfl, hscheduled, hrunning, ?_⟩
        rw [hdecisions, ← hkeptRow]
        exact List.mem_append_right _ (List.mem_singleton_self _)
  occupied := by
    intro id name
    have hrowFresh : row.id ∉ state.decisions.map Task.id := by
      rwa [hrow, htracks.ids]
    rw [hdecisions, exists_row_append_iff hrowFresh, hrow,
      MatchState.names_of_frame hframe, List.map_append, List.map_singleton,
      List.mem_append, List.mem_singleton]
    by_cases hid : id = candidate.id
    · rw [hid, hown]
      simp
    · rw [hothers id name hid, htracks.occupied]
      simp [hid]

/-- The row of a holder says that the task keeps its nodes. -/
theorem Tracks.row_of_holder (htracks : partition.Tracks done state)
    (hdone : (done.map Candidate.id).Nodup) {holder : Holder}
    (hholder : holder ∈ state.holders) {row : Task}
    (hrow : row ∈ state.decisions) (hid : row.id = holder.id) :
    ∃ kept ∈ done, holder = MatchState.holderOf kept.prepared ∧
      kept.task.isScheduled ∧ kept.verdict.running = .approved ∧
      row = kept.task.withDecision .keepRunning .canRun "" := by
  obtain ⟨kept, hkept, rfl, hscheduled, hrunning, hkeptRow⟩ :=
    htracks.kept holder hholder
  exact ⟨kept, hkept, rfl, hscheduled, hrunning,
    List.inj_on_of_nodup_map (htracks.nodup_rows hdone) hrow hkeptRow hid⟩

/-- The suspension of holders is tracked, too. -/
theorem Tracks.dismissAll (htracks : partition.Tracks done state)
    (hdone : (done.map Candidate.id).Nodup) (preemptor : TaskId)
    {victims : List Holder} (hvictims : victims ⊆ state.holders) :
    partition.Tracks done (state.dismissAll preemptor victims) where
  header := (state.header_dismissAll preemptor victims).trans htracks.header
  coherent := MatchState.coherent_dismissAll htracks.coherent victims
  frame := (MatchState.frame_dismissAll victims).trans htracks.frame
  ids := (MatchState.ids_dismissAll victims).trans htracks.ids
  holders := by
    rw [MatchState.holders_dismissAll]
    exact htracks.holders.sublist (List.filter_sublist.map _)
  kept := by
    intro holder hholder
    rw [MatchState.holders_dismissAll, List.mem_filter,
      decide_eq_true_eq] at hholder
    obtain ⟨kept, hkept, rfl, hscheduled, hrunning, hrow⟩ :=
      htracks.kept holder hholder.1
    refine ⟨kept, hkept, rfl, hscheduled, hrunning, ?_⟩
    rw [MatchState.decisions_dismissAll]
    exact List.mem_map.mpr ⟨_, hrow, if_neg hholder.2⟩
  occupied := by
    intro id name
    rw [MatchState.occupies_dismissAll_iff, htracks.occupied,
      MatchState.names_of_frame (MatchState.frame_dismissAll victims)]
    constructor
    · rintro ⟨⟨row, hrow, rfl, hholding, hlisted, hname⟩ | hlater, hlost⟩
      · have hspared : row.id ∉ victims.map Holder.id := by
          -- The row of a victim lists what the victim gives back.
          intro hvictim
          obtain ⟨victim, hmem, hid⟩ := List.mem_map.mp hvictim
          obtain ⟨kept, -, heq, -, -, rfl⟩ :=
            htracks.row_of_holder hdone (hvictims hmem) hrow hid.symm
          exact hlost victim hmem ⟨hid.symm, heq ▸ hlisted⟩
        have hstays : row ∈ (state.dismissAll preemptor victims).decisions :=
          (MatchState.mem_dismissAll_iff_of_holding hholding).mpr
            ⟨hrow, hspared⟩
        exact Or.inl ⟨row, hstays, rfl, hholding, hlisted, hname⟩
      · exact Or.inr hlater
    · rintro (⟨row, hrow, rfl, hholding, hlisted, hname⟩ | hlater)
      · obtain ⟨hbefore, hspared⟩ :=
          (MatchState.mem_dismissAll_iff_of_holding hholding).mp hrow
        refine ⟨Or.inl ⟨row, hbefore, rfl, hholding, hlisted, hname⟩, ?_⟩
        rintro victim hmem ⟨hid, -⟩
        exact hspared (hid ▸ List.mem_map_of_mem hmem)
      · refine ⟨Or.inr hlater, ?_⟩
        rintro victim hmem ⟨rfl, -⟩
        exact hlater.1 (htracks.id_of_holder (hvictims hmem))

theorem Tracks.group_eq (htracks : partition.Tracks done state) :
    state.group = partition.group :=
  congrArg Prod.fst htracks.header

theorem Tracks.active_eq (htracks : partition.Tracks done state) :
    state.active = partition.nodes.length :=
  congrArg Prod.snd htracks.header

/-- A queued task holds nothing before its turn. -/
theorem Tracks.not_occupies_waiting (htracks : partition.Tracks done state)
    (hsound : partition.Sound pass)
    (hcandidate : candidate ∈ partition.decided pass)
    (hfresh : candidate.id ∉ done.map Candidate.id)
    (hwaiting : candidate.task.isScheduled = false) (name : NodeName) :
    ¬ state.Occupies candidate.id name := by
  intro hoccupies
  have hscheduled :=
    (htracks.listed_of_occupies hsound hcandidate hfresh hoccupies).1
  rw [hwaiting] at hscheduled
  cases hscheduled

/-- A turn that leaves the pool and the holders alone, on a task that holds
nothing before and after it. -/
theorem Tracks.extend_idle (htracks : partition.Tracks done state)
    (hfresh : candidate.id ∉ done.map Candidate.id) {row : Task}
    (hdecisions : next.decisions = state.decisions ++ [row])
    (hrow : row.id = candidate.id) (hidle : row.isHolding = false)
    (hheader : next.header = state.header) (hpool : next.pool = state.pool)
    (hholders : next.holders = state.holders)
    (hnone : ∀ name, ¬ state.Occupies candidate.id name) :
    partition.Tracks (done ++ [candidate]) next := by
  have hsame : ∀ id name, next.Occupies id name ↔ state.Occupies id name := by
    intro id name
    rw [MatchState.Occupies, hpool, MatchState.Occupies]
  have hframe : next.frame = state.frame := by
    rw [MatchState.frame, hpool, MatchState.frame]
  refine htracks.extend hfresh hdecisions hrow hheader
    (htracks.coherent.of_pool hpool) hframe (Or.inl hholders)
    (fun id name _ => hsame id name) ?_
  intro name
  rw [hsame, hidle]
  simpa using hnone name

/-- A start is tracked if it takes free nodes. -/
theorem Tracks.start (htracks : partition.Tracks done state)
    (hfresh : candidate.id ∉ done.map Candidate.id)
    (hnone : ∀ name, ¬ state.Occupies candidate.id name)
    {chosen : List NodeName} (hfree : chosen ⊆ state.freeNodes.map Node.name) :
    partition.Tracks (done ++ [candidate])
      (state.start candidate.task chosen) := by
  refine htracks.extend hfresh rfl rfl rfl
    (state.coherent_start _ _ htracks.coherent) (state.frame_start _ _)
    (Or.inl rfl) ?_ ?_
  · intro id name hother
    rw [MatchState.occupies_start_iff]
    constructor
    · rintro (⟨-, -, hid⟩ | h)
      · exact absurd hid hother
      · exact h.2
    · intro hoccupies
      refine Or.inr ⟨fun hchosen => ?_, hoccupies⟩
      exact MatchState.not_occupies_of_free htracks.coherent (hfree hchosen) id
        hoccupies
  · intro name
    rw [MatchState.occupies_start_iff]
    constructor
    · rintro (⟨hchosen, hname, -⟩ | h)
      · exact ⟨rfl, hchosen, hname⟩
      · exact absurd h.2 (hnone name)
    · rintro ⟨-, hchosen, hname⟩
      exact Or.inl ⟨hchosen, hname, rfl⟩

/-- Every turn is tracked. -/
theorem Tracks.turn (htracks : partition.Tracks done state)
    (hsound : partition.Sound pass) (hdone : (done.map Candidate.id).Nodup)
    (hcandidate : candidate ∈ partition.decided pass)
    (hfresh : candidate.id ∉ done.map Candidate.id)
    (hturn : MatchState.Turn pass partition.valid state candidate next) :
    partition.Tracks (done ++ [candidate]) next := by
  cases hturn with
  | keep hscheduled hrunning =>
    rw [MatchState.keep_eq]
    refine htracks.extend hfresh rfl rfl rfl (htracks.coherent.of_pool rfl) rfl
      ?_ (fun _ _ _ => Iff.rfl) ?_
    · dsimp only
      split
      · exact Or.inr ⟨rfl, hscheduled, hrunning, rfl⟩
      · exact Or.inl rfl
    · intro name
      refine (htracks.occupies_approved_iff hsound hcandidate hfresh hscheduled
          hrunning).trans ?_
      exact ⟨fun h => ⟨rfl, h⟩, And.right⟩
  | suspend hscheduled hrunning =>
    rw [MatchState.suspend_eq]
    have hreleased :=
      state.coherent_release candidate.task.id candidate.task.assignedNodes
        htracks.coherent
    refine htracks.extend hfresh rfl rfl rfl (hreleased.of_pool rfl)
      (state.frame_release _ _) (Or.inl rfl) ?_ ?_
    · intro id name hother
      refine (state.occupies_release_iff _ _).trans (and_iff_left ?_)
      exact fun h => hother h.1
    · intro name
      refine (state.occupies_release_iff _ _).trans ⟨?_, fun h => nomatch h.1⟩
      rintro ⟨hoccupies, hkept⟩
      exact absurd
        ⟨rfl, (htracks.listed_of_occupies hsound hcandidate hfresh hoccupies).2⟩
        hkept
  | reject hwaiting =>
    rw [MatchState.rejectInfeasible_eq]
    exact htracks.extend_idle hfresh rfl rfl rfl rfl rfl rfl
      (htracks.not_occupies_waiting hsound hcandidate hfresh hwaiting)
  | holdBack hwaiting =>
    rw [MatchState.holdBack_eq]
    exact htracks.extend_idle hfresh rfl rfl rfl rfl rfl rfl
      (htracks.not_occupies_waiting hsound hcandidate hfresh hwaiting)
  | start hwaiting _ _ hfree =>
    exact htracks.start hfresh
      (htracks.not_occupies_waiting hsound hcandidate hfresh hwaiting)
      hfree.subset
  | preempt hwaiting _ _ _ _ hvictims _ _ hfree =>
    have hdismissed := htracks.dismissAll hdone candidate.id hvictims.subset
    exact hdismissed.start hfresh
      (hdismissed.not_occupies_waiting hsound hcandidate hfresh hwaiting)
      hfree.subset
  | wait hwaiting =>
    rw [MatchState.wait_eq]
    exact htracks.extend_idle hfresh rfl rfl rfl rfl rfl rfl
      (htracks.not_occupies_waiting hsound hcandidate hfresh hwaiting)

end Step

end Partition

end ClusterTick
