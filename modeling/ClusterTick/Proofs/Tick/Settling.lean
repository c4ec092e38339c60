import ClusterTick.Proofs.Tick.Forgetting
import ClusterTick.Proofs.Tick.Repair
import Mathlib.Data.List.MinMax

/-!
# Enacted ticks settle

From the second tick on, a task is suspended only for a more urgent one that
starts.  So the holders gain weight if a task weighs more than all the less
urgent tasks together, and they cannot gain weight forever.  Once a tick starts
and suspends nobody, it has changed nothing that the next one reads, and all
later ticks decide alike.
-/

namespace ClusterTick

/-- An assignment that starts and suspends nobody. -/
def Assignment.IsQuiet (assignment : Assignment) : Prop :=
  ∀ row ∈ assignment.tasks,
    row.processResult ≠ .startup ∧ row.processResult ≠ .suspend

/-- A number that grows with the priority that counts. -/
def PreparedTask.urgency (task : PreparedTask) : Nat :=
  (task.effectivePriority.toInt + 2 ^ 31).toNat

theorem PreparedTask.urgency_lt {left right : PreparedTask}
    (hlt : left.effectivePriority < right.effectivePriority) :
    left.urgency < right.urgency := by
  have hvalue := Int32.lt_iff_toInt_lt.mp hlt
  have hlow := Int32.le_toInt left.effectivePriority
  have hhigh := Int32.le_toInt right.effectivePriority
  simp only [urgency]
  omega

section Sums

/-! ## Sums that grow -/

variable {α : Type} {before after : α → Nat} {base gain : Nat} {items : List α}

private theorem mul_sum_le
    (hgain : ∀ item ∈ items, base * before item ≤ base * after item + gain) :
    base * (items.map before).sum ≤
      base * (items.map after).sum + items.length * gain := by
  induction items with
  | nil => simp
  | cons head rest ih =>
    have hhead := hgain head List.mem_cons_self
    have hrest :=
      ih fun item hitem => hgain item (List.mem_cons_of_mem head hitem)
    simp only [List.map_cons, List.sum_cons, List.length_cons, Nat.mul_add,
      Nat.add_mul]
    omega

/-- A sum grows if one item gains more than all the others can lose. -/
theorem sum_lt_sum_of_gain (base : Nat) {item : α} (hitem : item ∈ items)
    (hbefore : before item = 0) (hpositive : 0 < after item)
    (hlength : items.length ≤ base)
    (hgain : ∀ other ∈ items,
      base * before other ≤ base * after other + after item) :
    (items.map before).sum < (items.map after).sum := by
  obtain ⟨front, back, rfl⟩ := List.append_of_mem hitem
  have hrest : base * ((front ++ back).map before).sum ≤
      base * ((front ++ back).map after).sum +
        (front ++ back).length * after item := by
    apply mul_sum_le
    intro other hother
    exact hgain other
      (by simp only [List.mem_append, List.mem_cons] at hother ⊢; tauto)
  have hfew : (front ++ back).length * after item < base * after item := by
    apply Nat.mul_lt_mul_of_pos_right _ hpositive
    simp only [List.length_append, List.length_cons] at hlength ⊢
    omega
  simp only [List.map_append, List.map_cons, List.sum_append, List.sum_cons,
    hbefore] at hrest ⊢
  apply Nat.lt_of_mul_lt_mul_left (a := base)
  simp only [Nat.mul_add] at hrest ⊢
  omega

/-- What is bounded does not grow forever. -/
theorem exists_not_lt_succ {measure : Nat → Nat} {bound : Nat}
    (hbound : ∀ count, measure count ≤ bound) :
    ∃ count, ¬ measure count < measure (count + 1) := by
  by_contra hgrows
  push Not at hgrows
  have hlarge : ∀ count, count ≤ measure count := by
    intro count
    induction count with
    | zero => exact Nat.zero_le _
    | succ count ih => exact Nat.lt_of_le_of_lt ih (hgrows count)
  exact Nat.not_succ_le_self bound
    (Nat.le_trans (hlarge (bound + 1)) (hbound (bound + 1)))

end Sums

namespace WorkingSet

/-- What a task weighs: more than all less urgent tasks together. -/
def weightOf (set : WorkingSet) (task : PreparedTask) : Nat :=
  (set.tasks.length + 1) ^ task.urgency

/-- What the scheduled tasks weigh. -/
def weight (set : WorkingSet) : Nat :=
  (set.tasks.map fun task =>
    if task.task.isScheduled then set.weightOf task else 0).sum

/-- What all tasks weigh. -/
def capacity (set : WorkingSet) : Nat := (set.tasks.map set.weightOf).sum

/-- A more urgent task weighs more by the factor of the base. -/
theorem mul_weightOf_le (set : WorkingSet) {left right : PreparedTask}
    (hlt : left.urgency < right.urgency) :
    (set.tasks.length + 1) * set.weightOf left ≤ set.weightOf right := by
  rw [weightOf, weightOf, ← Nat.pow_succ']
  exact Nat.pow_le_pow_right (Nat.succ_pos _) hlt

theorem weight_le_capacity (set : WorkingSet) : set.weight ≤ set.capacity := by
  apply List.sum_le_sum
  intro task _
  split
  · exact Nat.le_refl _
  · exact Nat.zero_le _

end WorkingSet

namespace Tick

section Gains

/-! ## What the holders gain -/

variable (snapshot : Snapshot) (config : EngineConfig) (decidedAt : Instant)

/-- Whether a task holds nothing before the tick and is scheduled after it. -/
def gains (task : PreparedTask) : Bool :=
  !task.task.isScheduled &&
    ((revision snapshot config decidedAt).change task.task).isScheduled

theorem gains_iff {task : PreparedTask} : gains snapshot config decidedAt task ↔
    task.task.isScheduled = false ∧
      ((revision snapshot config decidedAt).change task.task).isScheduled := by
  simp [gains]

/-- A task that starts is one that gains. -/
theorem exists_gains_of_startup {row : Task}
    (hrow : row ∈ tickRows (prepare snapshot config))
    (hstartup : row.processResult = .startup) :
    ∃ task ∈ (workingSet snapshot config).tasks,
      row.request = task.task.request ∧
      gains snapshot config decidedAt task := by
  obtain ⟨pass, frame, -, -, task, htask, hruling⟩ :=
    (allReady_prepare snapshot config).ruled hrow
  have hmem := (mem_matchable_iff.mp htask).1
  have hholding : row.isHolding := by
    simp [Task.isHolding, hstartup, Decision.holds]
  refine ⟨task, hmem, hruling.request_eq,
    (gains_iff snapshot config decidedAt).mpr ⟨?_, ?_⟩⟩
  · rcases hruling.kept_or_started hholding with
      ⟨-, -, rfl⟩ | ⟨chosen, hwaiting, -⟩
    · cases hstartup
    · exact hwaiting
  · exact (isScheduled_change_iff snapshot config decidedAt hmem).mpr
      ⟨row, hrow, hruling.id_eq, hholding⟩

section Entitled

variable (hentitled : ∀ task ∈ (workingSet snapshot config).tasks,
  task.task.isScheduled →
  (prepare snapshot config).verdicts.running.check task.id = .approved)

include hentitled

/-- Whoever is suspended is below a task that gains. -/
theorem exists_gains_of_suspended {row : Task}
    (hrow : row ∈ tickRows (prepare snapshot config))
    (hsuspended : row.processResult = .suspend) :
    ∃ task ∈ (workingSet snapshot config).tasks,
      gains snapshot config decidedAt task ∧
      WorkingSet.effectivePriority (workingSet snapshot config).users row <
        task.effectivePriority := by
  obtain ⟨starter, hstarter, hway⟩ :=
    exists_starter_of_suspended snapshot config hentitled hrow hsuspended
  obtain ⟨task, htask, hrequest, hgains⟩ :=
    exists_gains_of_startup snapshot config decidedAt hstarter hway.started
  have habove := hway.above
  rw [effectivePriority_of_request snapshot config htask hrequest] at habove
  exact ⟨task, htask, hgains, habove⟩

/-- So is whoever holds nodes before the tick and not after it. -/
theorem exists_gains_of_lost {task : PreparedTask}
    (htask : task ∈ (workingSet snapshot config).tasks)
    (hscheduled : task.task.isScheduled)
    (hlost : ((revision snapshot config decidedAt).change
        task.task).isScheduled = false) :
    ∃ other ∈ (workingSet snapshot config).tasks,
      gains snapshot config decidedAt other ∧
      task.effectivePriority < other.effectivePriority := by
  have hready := allReady_prepare snapshot config
  obtain ⟨row, hrow, hid⟩ := (hready.exists_row_iff htask).mpr
    (by simp [PreparedTask.isMatchable, hscheduled])
  obtain ⟨pass, frame, -, -, -, hruling⟩ := hready.ruling_of_id htask hrow hid
  rcases (hruling.of_scheduled hscheduled).2 with hholding | hsuspended
  · rw [(isScheduled_change_iff snapshot config decidedAt htask).mpr
      ⟨row, hrow, hid, hholding⟩] at hlost
    cases hlost
  · have hgains :=
      exists_gains_of_suspended snapshot config decidedAt hentitled hrow
        hsuspended
    rwa [effectivePriority_of_request snapshot config htask
      hruling.request_eq] at hgains

/-- If anybody starts or is suspended, then a task gains. -/
theorem exists_gains_of_busy
    (hbusy : ¬ (schedule snapshot config decidedAt).assignment.IsQuiet) :
    ∃ task ∈ (workingSet snapshot config).tasks,
      gains snapshot config decidedAt task := by
  simp only [Assignment.IsQuiet, not_forall, schedule_tasks] at hbusy
  obtain ⟨row, hrow, hmoves⟩ := hbusy
  rw [not_and_or, not_not, not_not] at hmoves
  rcases hmoves with hstartup | hsuspended
  · obtain ⟨task, htask, -, hgains⟩ :=
      exists_gains_of_startup snapshot config decidedAt hrow hstartup
    exact ⟨task, htask, hgains⟩
  · obtain ⟨task, htask, hgains, -⟩ :=
      exists_gains_of_suspended snapshot config decidedAt hentitled hrow
        hsuspended
    exact ⟨task, htask, hgains⟩

/-- One that gains is above all who lose. -/
theorem exists_greatest_gain
    (hbusy : ¬ (schedule snapshot config decidedAt).assignment.IsQuiet) :
    ∃ task ∈ (workingSet snapshot config).tasks,
      gains snapshot config decidedAt task ∧
      ∀ other ∈ (workingSet snapshot config).tasks, other.task.isScheduled →
        ((revision snapshot config decidedAt).change other.task).isScheduled =
          false →
        other.urgency < task.urgency := by
  obtain ⟨first, hfirst, hfirstGains⟩ :=
    exists_gains_of_busy snapshot config decidedAt hentitled hbusy
  have hsome : first ∈
      (workingSet snapshot config).tasks.filter
        (gains snapshot config decidedAt) :=
    List.mem_filter.mpr ⟨hfirst, hfirstGains⟩
  cases hgreatest : List.argmax PreparedTask.urgency
    ((workingSet snapshot config).tasks.filter
      (gains snapshot config decidedAt)) with
  | none =>
    rw [List.argmax_eq_none] at hgreatest
    rw [hgreatest] at hsome
    cases hsome
  | some task =>
    obtain ⟨htask, hgains⟩ := List.mem_filter.mp (List.argmax_mem hgreatest)
    refine ⟨task, htask, hgains, ?_⟩
    intro other hother hscheduled hlost
    obtain ⟨above, habove, haboveGains, hlt⟩ :=
      exists_gains_of_lost snapshot config decidedAt hentitled hother hscheduled
        hlost
    exact Nat.lt_of_lt_of_le (PreparedTask.urgency_lt hlt)
      (List.le_of_mem_argmax (List.mem_filter.mpr ⟨habove, haboveGains⟩)
        hgreatest)

end Entitled

theorem weightOf_following (task : PreparedTask) :
    (workingSet (following snapshot config decidedAt) config).weightOf
        ((revision snapshot config decidedAt).prepared task) =
      (workingSet snapshot config).weightOf task := by
  simp only [WorkingSet.weightOf, tasks_following, List.length_map,
    PreparedTask.urgency, Revision.effectivePriority_prepared]

private theorem capacity_following :
    (workingSet (following snapshot config decidedAt) config).capacity =
      (workingSet snapshot config).capacity := by
  rw [WorkingSet.capacity, tasks_following, List.map_map, WorkingSet.capacity]
  simp only [Function.comp_def, weightOf_following]

private theorem weight_following :
    (workingSet (following snapshot config decidedAt) config).weight =
      ((workingSet snapshot config).tasks.map fun task =>
        if ((revision snapshot config decidedAt).change
          task.task).isScheduled then
          (workingSet snapshot config).weightOf task
        else 0).sum := by
  rw [WorkingSet.weight, tasks_following, List.map_map]
  simp only [Function.comp_def, weightOf_following, Revision.task_prepared]

/-- Where the rules let every scheduled task keep its nodes, a tick that is not
quiet adds to the weight of the holders. -/
theorem weight_lt_of_busy
    (hentitled : ∀ task ∈ (workingSet snapshot config).tasks,
      task.task.isScheduled →
      (prepare snapshot config).verdicts.running.check task.id = .approved)
    (hbusy : ¬ (schedule snapshot config decidedAt).assignment.IsQuiet) :
    (workingSet snapshot config).weight <
      (workingSet (following snapshot config decidedAt) config).weight := by
  obtain ⟨task, htask, hgains, hgreatest⟩ :=
    exists_greatest_gain snapshot config decidedAt hentitled hbusy
  obtain ⟨hqueued, hstarted⟩ := (gains_iff snapshot config decidedAt).mp hgains
  have hpositive : 0 < (workingSet snapshot config).weightOf task :=
    Nat.pow_pos (Nat.succ_pos _)
  rw [weight_following, WorkingSet.weight]
  refine sum_lt_sum_of_gain ((workingSet snapshot config).tasks.length + 1)
    htask (by simp [hqueued]) (by simpa [hstarted] using hpositive)
    (Nat.le_succ _) ?_
  intro other hother
  simp only [hstarted, if_true]
  by_cases hscheduled : other.task.isScheduled
  · by_cases hkept : ((revision snapshot config decidedAt).change
      other.task).isScheduled
    · simp [hscheduled, hkept]
    · have hlost := (workingSet snapshot config).mul_weightOf_le
        (hgreatest other hother hscheduled (by simpa using hkept))
      simpa [hscheduled, hkept] using hlost
  · simp [hscheduled]

end Gains

section Quiet

/-! ## What a quiet tick leaves -/

private theorem unjudged_enact {decision : Task}
    (hstartup : decision.processResult ≠ .startup)
    (hsuspend : decision.processResult ≠ .suspend) (task : Task) :
    (Assignment.enact decision task).unjudged = task.unjudged := by
  rw [Assignment.enact]
  split
  case h_1 hstarts => exact absurd hstarts hstartup
  case h_2 hsuspends => exact absurd hsuspends hsuspend
  · rfl
  · rfl

/-- The enactment of a quiet tick changes nothing that a tick reads. -/
theorem unjudged_nextSnapshot {assignment : Assignment}
    (hquiet : assignment.IsQuiet) (snapshot : Snapshot) :
    (assignment.nextSnapshot snapshot).unjudged = snapshot.unjudged := by
  have hnodes : (assignment.nextSnapshot snapshot).nodes.map Node.vacated =
      snapshot.nodes.map Node.vacated :=
    (assignment.relates_nextSnapshot snapshot).nodes
  have htasks : (assignment.nextSnapshot snapshot).tasks.map Task.unjudged =
      snapshot.tasks.map Task.unjudged := by
    rw [Assignment.nextSnapshot, Assignment.project_eq, List.map_map]
    refine List.map_congr_left fun task _ => ?_
    rw [Function.comp_apply, Assignment.enacted]
    split
    case h_1 decision hlast =>
      have hrow := List.mem_reverse.mp (List.mem_of_find?_eq_some hlast)
      exact unjudged_enact (hquiet decision hrow).1 (hquiet decision hrow).2
        task
    · rfl
  rw [Snapshot.unjudged, hnodes, htasks]
  rfl

end Quiet

section Ticks

/-! ## Ticks in a row -/

variable (snapshot : Snapshot) (config : EngineConfig) (clock : Nat → Instant)

/-- The snapshot after a number of ticks, each decided at the time of a clock
and enacted before the next one. -/
def afterTicks : Nat → Snapshot
  | 0 => snapshot
  | count + 1 =>
    (schedule (afterTicks count) config (clock count)).assignment.nextSnapshot
      (afterTicks count)

/-- The assignment of a tick in the row. -/
def tickAssignment (count : Nat) : Assignment :=
  (schedule (afterTicks snapshot config clock count) config
    (clock count)).assignment

private theorem capacity_afterTicks (count : Nat) :
    (workingSet (afterTicks snapshot config clock count) config).capacity =
      (workingSet snapshot config).capacity := by
  induction count with
  | zero => rfl
  | succ count ih =>
    exact (capacity_following (afterTicks snapshot config clock count) config
        (clock count)).trans ih

/-- Some tick after the first one is quiet. -/
theorem exists_quiet_tick :
    ∃ count, (tickAssignment snapshot config clock (count + 1)).IsQuiet := by
  have hbound : ∀ count,
      (workingSet (afterTicks snapshot config clock (count + 1))
          config).weight ≤
        (workingSet snapshot config).capacity := by
    intro count
    rw [← capacity_afterTicks snapshot config clock (count + 1)]
    exact WorkingSet.weight_le_capacity _
  obtain ⟨count, hstays⟩ := exists_not_lt_succ hbound
  refine ⟨count, Classical.byContradiction fun hbusy => hstays ?_⟩
  exact weight_lt_of_busy (afterTicks snapshot config clock (count + 1)) config
    (clock (count + 1))
    (running_following (afterTicks snapshot config clock count) config
      (clock count)).2
    hbusy

/-- After a quiet tick, the ticks read the same and decide alike. -/
theorem unjudged_afterTicks {settled : Nat}
    (hquiet : (tickAssignment snapshot config clock settled).IsQuiet)
    (more : Nat) :
    (afterTicks snapshot config clock (settled + more)).unjudged =
        (afterTicks snapshot config clock settled).unjudged ∧
      (tickAssignment snapshot config clock (settled + more)).IsQuiet := by
  have hstays : ∀ count, (afterTicks snapshot config clock count).unjudged =
      (afterTicks snapshot config clock settled).unjudged →
        (tickAssignment snapshot config clock count).IsQuiet := by
    intro count hsame
    have hagrees := schedule_congr config hsame (clock count) (clock settled)
    rw [Assignment.IsQuiet, tickAssignment, hagrees.tasks]
    exact hquiet
  induction more with
  | zero => exact ⟨rfl, hquiet⟩
  | succ more ih =>
    have hsame :
        (afterTicks snapshot config clock (settled + (more + 1))).unjudged =
          (afterTicks snapshot config clock settled).unjudged :=
      (unjudged_nextSnapshot ih.2 _).trans ih.1
    exact ⟨hsame, hstays _ hsame⟩

/-- Enacted ticks settle: from some tick on, nobody is started or suspended, and
all ticks decide alike and leave the nodes alike. -/
theorem exists_settled_tick : ∃ settled, ∀ count ≥ settled,
    (∀ row ∈ (tickAssignment snapshot config clock count).tasks,
      row.processResult ≠ .startup ∧ row.processResult ≠ .suspend) ∧
    (tickAssignment snapshot config clock count).tasks =
      (tickAssignment snapshot config clock settled).tasks ∧
    (tickAssignment snapshot config clock count).infeasible =
      (tickAssignment snapshot config clock settled).infeasible ∧
    (tickAssignment snapshot config clock count).nodes =
      (tickAssignment snapshot config clock settled).nodes := by
  obtain ⟨earlier, hquiet⟩ := exists_quiet_tick snapshot config clock
  refine ⟨earlier + 1, fun count hlater => ?_⟩
  obtain ⟨more, rfl⟩ := Nat.exists_eq_add_of_le hlater
  obtain ⟨hsame, hstill⟩ :=
    unjudged_afterTicks snapshot config clock hquiet more
  have hagrees :=
    schedule_congr config hsame (clock (earlier + 1 + more))
      (clock (earlier + 1))
  exact ⟨hstill, hagrees.tasks, hagrees.infeasible, hagrees.nodes⟩

end Ticks

end Tick

end ClusterTick
