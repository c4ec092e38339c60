import ClusterTick.Proofs.Match.Shuffle
import ClusterTick.Proofs.Tick.Feasibility
import ClusterTick.Proofs.Tick.Overtaking
import ClusterTick.Proofs.Tick.Rearrangement

/-!
# The order of the rows

A tick decides alike in whatever order the rows of a snapshot come, as long as
the rows make clear which is which.  Only messages may differ: a queued task is
told of one attempt of its chain that holds nodes, and if there are several, of
the last one listed.
-/

namespace ClusterTick.Tick

section Passes

variable {left right : WorkingSet} (hsame : left.Rearranged right)

include hsame

/-- A task is the same candidate in both, but for what a denial says. -/
theorem alike_candidateOf {task : PreparedTask} (htask : task ∈ right.tasks) :
    (candidateOf ⟨left, Verdicts.evaluate left⟩ task).Alike .silent
      (candidateOf ⟨right, Verdicts.evaluate right⟩ task) where
  prepared := rfl
  running := by
    have hmem := hsame.tasks.mem_iff.mpr htask
    show (mayKeepRunning left left.groupSize).check task.id =
      (mayKeepRunning right right.groupSize).check task.id
    rw [check_mayKeepRunning hsame.ids_left hmem,
      check_mayKeepRunning hsame.ids htask, hsame.groupSize_eq,
      hsame.keepRunningCheck_eq htask]
  passes := by
    have hmem := hsame.tasks.mem_iff.mpr htask
    have hwaiting : ((mayStart left).check task.id).passes =
        ((mayStart right).check task.id).passes := by
      rw [check_mayStart hsame.ids_left hmem, check_mayStart hsame.ids htask]
      split
      · exact hsame.passes_startCheck
      · rfl
    have hquota : (withinLimits left left.groupSize).check task.id =
        (withinLimits right right.groupSize).check task.id := by
      rw [withinLimits, withinLimits, hsame.groupSize_eq,
        hsame.check_walk_eq _ htask]
    have hboth : ∀ first second : Check,
        (first.andThen second).passes = (first.passes && second.passes) := by
      intro first second
      cases first <;> rfl
    show (((mayStart left).check task.id).andThen
        ((withinLimits left left.groupSize).check task.id)).passes =
      (((mayStart right).check task.id).andThen
        ((withinLimits right right.groupSize).check task.id)).passes
    rw [hboth, hboth, hwaiting, hquota]
  denied _ _ _ _ := rfl

private theorem matchable_perm_of_rearranged (pass : MatchPass) :
    (matchable left pass).Perm (matchable right pass) :=
  hsame.tasks.filter _

/-- A pass over a group is given the same nodes and the same candidates. -/
theorem rearranged_groupPartition (pass : MatchPass) (frame : List Node)
    (group : GroupName) :
    (groupPartition ⟨left, Verdicts.evaluate left⟩ pass frame group).Rearranged
      .silent
      (groupPartition ⟨right, Verdicts.evaluate right⟩ pass frame group) where
  group := by rw [group_groupPartition, group_groupPartition]
  valid := hsame.valid
  nodes := rfl
  candidates := by
    have hperm :=
      (matchable_perm_of_rearranged hsame pass).filter fun task =>
        task.group = group
    have halike : List.Forall₂ (Candidate.Alike .silent)
        (((matchable left pass).filter fun task => task.group = group).map
          (candidateOf ⟨left, Verdicts.evaluate left⟩))
        (((matchable left pass).filter fun task => task.group = group).map
          (candidateOf ⟨right, Verdicts.evaluate right⟩)) := by
      rw [List.forall₂_map_left_iff, List.forall₂_map_right_iff,
        List.forall₂_same]
      intro task htask
      have hmem := List.mem_of_mem_filter (List.mem_of_mem_filter htask)
      exact alike_candidateOf hsame (hsame.tasks.mem_iff.mp hmem)
    exact ⟨_, halike, hperm.map _⟩

end Passes

section Shares

/-! ## Both passes -/

variable {left right : Snapshot} {config : EngineConfig}
variable (hsame : (workingSet left config).Rearranged (workingSet right config))

include hsame

/-- A pass that starts from the same frame makes the same of a group. -/
theorem share_of_passFrame {pass : MatchPass}
    (hframe : passFrame (prepare left config) pass =
      passFrame (prepare right config) pass)
    (group : GroupName) :
    (share (prepare left config) pass group).nodes =
        (share (prepare right config) pass group).nodes ∧
      ((share (prepare left config) pass group).tasks.map Task.silenced).Perm
        ((share (prepare right config) pass group).tasks.map
          Task.silenced) := by
  have hleft := (allReady_prepare left config).passFrame pass
  have hright := (allReady_prepare right config).passFrame pass
  have hsee : RowView.silent.see = fun row => some row.silenced := rfl
  rw [hframe] at hleft
  have hrun :=
    (rearranged_groupPartition hsame pass _ group).run (hleft.sound group)
      (hright.sound group)
  rw [hsee, List.filterMap_eq_map'] at hrun
  rw [share, hframe]
  exact hrun

theorem passFrame_eq (pass : MatchPass) :
    passFrame (prepare left config) pass =
      passFrame (prepare right config) pass := by
  have hvalidation : passFrame (prepare left config) .validation =
      passFrame (prepare right config) .validation := hsame.nodes
  cases pass with
  | validation => exact hvalidation
  | training =>
    exact frameAfter_congr (allReady_prepare left config .validation)
      (allReady_prepare right config .validation)
      fun group => (share_of_passFrame hsame hvalidation group).1

private theorem tickFrame_eq :
    tickFrame (prepare left config) = tickFrame (prepare right config) :=
  frameAfter_congr (allReady_prepare left config).training
    (allReady_prepare right config).training fun group =>
      (share_of_passFrame hsame (passFrame_eq hsame .training) group).1

omit hsame in
theorem AllReady.mem_silenced_iff {prepared : Prepared}
    (hready : AllReady prepared) {seen : Task} :
    seen ∈ (tickRows prepared).map Task.silenced ↔
      seen ∈
        (share prepared (.ofTask seen) seen.group).tasks.map Task.silenced := by
  rw [List.mem_map, List.mem_map]
  constructor
  · rintro ⟨row, hrow, rfl⟩
    exact ⟨row, hready.mem_tickRows_iff.mp hrow, rfl⟩
  · rintro ⟨row, hrow, rfl⟩
    exact ⟨row, hready.mem_tickRows_iff.mpr hrow, rfl⟩

private theorem mem_silenced_tickRows_iff {seen : Task} :
    seen ∈ (tickRows (prepare left config)).map Task.silenced ↔
      seen ∈ (tickRows (prepare right config)).map Task.silenced := by
  rw [(allReady_prepare left config).mem_silenced_iff,
    (allReady_prepare right config).mem_silenced_iff]
  exact (share_of_passFrame hsame (passFrame_eq hsame _) _).2.mem_iff

end Shares

section Schedule

private theorem decision?_silenced (snapshot : Snapshot) (config : EngineConfig)
    (decidedAt : Instant) (id : TaskId) {seen : Task} :
    ((schedule snapshot config decidedAt).assignment.decision? id).map
          Task.silenced = some seen ↔
      seen ∈ (tickRows (prepare snapshot config)).map Task.silenced ∧
        seen.id = id := by
  have hids : (((tickRows (prepare snapshot config)).map Task.silenced).map
      Task.id).Nodup := by
    rw [List.map_map]
    exact (allReady_prepare snapshot config).nodup_tickRows
  rw [← find?_key_eq_some_iff hids, List.find?_map, Assignment.decision?,
    schedule_tasks]
  rfl

/-- The order of the rows of a snapshot changes no decision, no node and no list
of tasks that are too large. -/
theorem schedule_of_rearranged {left right : Snapshot}
    (hsame : left.Rearranged right) (hclear : right.Unambiguous)
    (config : EngineConfig) (decidedAt other : Instant) :
    (∀ id,
        ((schedule left config decidedAt).assignment.decision? id).map
            Task.silenced =
          ((schedule right config other).assignment.decision? id).map
            Task.silenced) ∧
      (schedule left config decidedAt).assignment.nodes =
        (schedule right config other).assignment.nodes ∧
      (schedule left config decidedAt).assignment.infeasible =
        (schedule right config other).assignment.infeasible := by
  have hsets := rearranged_workingSet hsame hclear config
  refine ⟨?_, ?_, ?_⟩
  · intro id
    apply Option.ext
    intro seen
    rw [decision?_silenced, decision?_silenced, mem_silenced_tickRows_iff hsets]
  · rw [schedule_nodes, schedule_nodes, tickFrame_eq hsets]
  · apply OrderedMap.eq_of_ordered_of_mem_iff
      (ordered_schedule_infeasible left config decidedAt)
      (ordered_schedule_infeasible right config other)
    intro id
    rw [mem_schedule_infeasible_iff, mem_schedule_infeasible_iff]
    simp only [hsets.tasks.mem_iff, isTooLarge, hsets.groupSize_eq]

/-- On the contended nodes the same task preempts, and the same one waits, when
all rows are listed in the opposite order. -/
theorem schedule_of_rearranged_contendedNodes :
    contendedNodes.reversed.Rearranged contendedNodes ∧
      contendedNodes.Unambiguous ∧
      ((schedule contendedNodes.reversed {} default).assignment.decision?
            ⟨4⟩).map Task.silenced =
        ((schedule contendedNodes {} default).assignment.decision? ⟨4⟩).map
          Task.silenced ∧
      (schedule contendedNodes.reversed {} default).assignment.nodes =
        (schedule contendedNodes {} default).assignment.nodes ∧
      (schedule contendedNodes.reversed {} default).assignment.infeasible =
        (schedule contendedNodes {} default).assignment.infeasible := by
  have hsame : contendedNodes.reversed.Rearranged contendedNodes :=
    Snapshot.rearranged_reversed contendedNodes
  have hclear : contendedNodes.Unambiguous :=
    ⟨by decide, by decide, by decide, by decide⟩
  obtain ⟨hdecisions, hnodes, hinfeasible⟩ :=
    schedule_of_rearranged hsame hclear {} default default
  exact ⟨hsame, hclear, hdecisions ⟨4⟩, hnodes, hinfeasible⟩

end Schedule

end ClusterTick.Tick
