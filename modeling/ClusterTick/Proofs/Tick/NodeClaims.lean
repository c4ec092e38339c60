import ClusterTick.Proofs.Order.OrderedMap
import ClusterTick.Tick.WorkingSet
import Mathlib.Data.List.Induction

/-!
# What the scheduled tasks claim

A node is held by the first scheduled task that lists it, and a listing is
contested if another task holds the node or the task has listed it before.  The
claims are made one after the other, so the holders are those among the tasks
that came before: what a task leaves is stated for one name, for the names of
one task, and for all tasks.
-/

namespace ClusterTick.WorkingSet

/-- The task that holds a node: the first scheduled one that lists it. -/
def holder? (tasks : List Task) (name : NodeName) : Option TaskId :=
  (tasks.find? fun task => task.isScheduled ∧ name ∈ task.assignedNodes).map
    Task.id

/-- The contested listings among the names that a scheduled task lists.  A name
is contested if another task holds the node or the task has listed it before. -/
def contestedNames (active : NodeName → Bool)
    (holder? : NodeName → Option TaskId) (id : TaskId) :
    (listed : List NodeName) → List NodeName → List NodeConflict
  | _, [] => []
  | listed, name :: rest =>
    let later := contestedNames active holder? id (name :: listed) rest
    match holder? name with
    | some holder =>
      if active name ∧ (holder ≠ id ∨ name ∈ listed) then
        ⟨name, holder⟩ :: later
      else later
    | none => later

/-- The contested listings of a task; only scheduled tasks have any. -/
def contested (nodes : List Node) (tasks : List Task) (task : Task) :
    List NodeConflict :=
  if task.isScheduled then
    contestedNames (fun name => nodes.any fun node => node.name = name)
      (holder? tasks) task.id [] task.assignedNodes
  else
    []

section Holder

variable {tasks : List Task} {name : NodeName}

theorem exists_of_holder?_eq_some {id : TaskId}
    (hholder : holder? tasks name = some id) :
    ∃ task ∈ tasks, task.id = id ∧ task.isScheduled ∧
      name ∈ task.assignedNodes := by
  obtain ⟨task, hfound, rfl⟩ := Option.map_eq_some_iff.mp hholder
  have hlisted : task.isScheduled ∧ name ∈ task.assignedNodes := by
    simpa using List.find?_some hfound
  exact ⟨task, List.mem_of_find?_eq_some hfound, rfl, hlisted⟩

theorem exists_holder?_of_listed {task : Task} (hmem : task ∈ tasks)
    (hscheduled : task.isScheduled) (hlisted : name ∈ task.assignedNodes) :
    ∃ id, holder? tasks name = some id := by
  rw [← Option.isSome_iff_exists, holder?, Option.isSome_map, List.find?_isSome]
  exact ⟨task, hmem, by simp [hscheduled, hlisted]⟩

/-- Without a contested listing, each active name that is listed is held by the
task itself, and is listed once. -/
theorem held_of_contestedNames_eq_nil {active : NodeName → Bool}
    {holder? : NodeName → Option TaskId} {id : TaskId}
    {listed names : List NodeName}
    (hnone : contestedNames active holder? id listed names = [])
    (hname : name ∈ names) (hactive : active name) {holder : TaskId}
    (hholder : holder? name = some holder) :
    holder = id ∧ name ∉ listed ∧ names.count name = 1 := by
  induction names generalizing listed with
  | nil => cases hname
  | cons head rest ih =>
    have hlater :
        contestedNames active holder? id (head :: listed) rest = [] := by
      simp only [contestedNames] at hnone
      split at hnone
      · split at hnone
        · cases hnone
        · exact hnone
      · exact hnone
    rcases List.mem_cons.mp hname with rfl | hrest
    · have hfree : ¬ (active name ∧ (holder ≠ id ∨ name ∈ listed)) := by
        intro hcontested
        simp [contestedNames, hholder, hcontested] at hnone
      have hnotLater : name ∉ rest :=
        fun hmem => (ih hlater hmem).2.1 List.mem_cons_self
      refine ⟨?_, fun hmem => hfree ⟨hactive, Or.inr hmem⟩, ?_⟩
      · exact Classical.byContradiction fun hne => hfree ⟨hactive, Or.inl hne⟩
      · rw [List.count_cons_self, List.count_eq_zero.mpr hnotLater]
    · obtain ⟨hown, hfresh, hcount⟩ := ih hlater hrest
      rw [List.mem_cons, not_or] at hfresh
      exact ⟨hown, hfresh.2, by rwa [List.count_cons_of_ne (Ne.symm hfresh.1)]⟩

/-- Nothing is contested if the task holds each active name that it lists, and
lists it once. -/
theorem contestedNames_eq_nil {active : NodeName → Bool}
    {holder? : NodeName → Option TaskId} {id : TaskId}
    {listed names : List NodeName}
    (hheld : ∀ name ∈ names, active name →
      holder? name = some id ∧ names.count name = 1 ∧ name ∉ listed) :
    contestedNames active holder? id listed names = [] := by
  induction names generalizing listed with
  | nil => rfl
  | cons head rest ih =>
    have hlater :
        contestedNames active holder? id (head :: listed) rest = [] := by
      apply ih
      intro name hname hactive
      obtain ⟨hholder, hcount, hfresh⟩ :=
        hheld name (List.mem_cons_of_mem head hname) hactive
      have hne : head ≠ name := by
        rintro rfl
        have hagain := List.count_pos_iff.mpr hname
        rw [List.count_cons_self] at hcount
        omega
      rw [List.count_cons_of_ne hne] at hcount
      exact ⟨hholder, hcount, by simp [Ne.symm hne, hfresh]⟩
    simp only [contestedNames, hlater]
    split
    case h_1 holder hholder =>
      rw [if_neg]
      rintro ⟨hactive, hcontested⟩
      obtain ⟨hown, -, hfresh⟩ := hheld head List.mem_cons_self hactive
      rcases hcontested with hother | hagain
      · exact hother (Option.some.inj (hholder.symm.trans hown))
      · exact hfresh hagain
    · rfl

/-- What is contested depends on the holders of the listed nodes only. -/
theorem contestedNames_congr {active : NodeName → Bool}
    {left right : NodeName → Option TaskId} {id : TaskId}
    {listed names : List NodeName}
    (hsame : ∀ name ∈ names, left name = right name) :
    contestedNames active left id listed names =
      contestedNames active right id listed names := by
  induction names generalizing listed with
  | nil => rfl
  | cons name rest ih =>
    simp only [contestedNames, hsame name List.mem_cons_self,
      ih fun other hother => hsame other (List.mem_cons_of_mem name hother)]

/-- The holder does not change by a task that comes later. -/
theorem holder?_concat (earlier : List Task) (task : Task) (name : NodeName) :
    holder? (earlier ++ [task]) name =
      (holder? earlier name).or
        (if task.isScheduled ∧ name ∈ task.assignedNodes then some task.id
         else none) := by
  rw [holder?, holder?, List.find?_append]
  cases earlier.find? fun task =>
    task.isScheduled ∧ name ∈ task.assignedNodes with
  | some holder => rfl
  | none =>
    by_cases hlisted : task.isScheduled ∧ name ∈ task.assignedNodes
    · simp [hlisted]
    · simp [hlisted]

/-- Nor do the contested listings, since the holders of the listed nodes are
known. -/
theorem contested_concat {nodes : List Node} {earlier : List Task} {task : Task}
    (later : Task) (htask : task ∈ earlier) :
    contested nodes (earlier ++ [later]) task =
      contested nodes earlier task := by
  rw [contested, contested]
  split
  case isTrue hscheduled =>
    apply contestedNames_congr
    intro name hlisted
    obtain ⟨id, hholder⟩ := exists_holder?_of_listed htask hscheduled hlisted
    rw [holder?_concat, hholder, Option.some_or]
  · rfl

end Holder

end ClusterTick.WorkingSet

namespace ClusterTick.NodeClaims

open WorkingSet

/-- A node row with its holder. -/
def withHolder (holders : NodeName → Option TaskId) (node : Node) : Node :=
  { node with working := holders node.name }

/-- The holders after a task has claimed some of its names. -/
def holdersAfter (holders : NodeName → Option TaskId) (id : TaskId)
    (listed : List NodeName) (name : NodeName) : Option TaskId :=
  (holders name).or (if name ∈ listed then some id else none)

section Names

variable {reported : List Node} {holders : NodeName → Option TaskId}
  {id : TaskId} {claims : NodeClaims} {listed : List NodeName}

/-- One name more changes the holder at most at this name. -/
private theorem holdersAfter_cons (name other : NodeName) :
    holdersAfter holders id (name :: listed) other =
      if other = name then (holdersAfter holders id listed name).or (some id)
      else holdersAfter holders id listed other := by
  by_cases hname : other = name
  · subst hname
    cases hholder : holders other with
    | some holder => simp [holdersAfter, hholder]
    | none =>
      by_cases hlisted : other ∈ listed
      · simp [holdersAfter, hholder, hlisted]
      · simp [holdersAfter, hholder, hlisted]
  · simp [holdersAfter, hname]

/-- A name that is held or that no node has changes no node. -/
private theorem map_withHolder_cons {name : NodeName}
    (hheld : (∀ node ∈ reported, node.name ≠ name) ∨
      ∃ holder, holdersAfter holders id listed name = some holder) :
    reported.map (withHolder (holdersAfter holders id (name :: listed))) =
      reported.map (withHolder (holdersAfter holders id listed)) := by
  refine List.map_congr_left fun node hnode => ?_
  rw [withHolder, withHolder, holdersAfter_cons]
  split
  case isTrue hname =>
    obtain habsent | ⟨holder, hholder⟩ := hheld
    · exact absurd hname (habsent node hnode)
    · rw [hname, hholder, Option.some_or]
  · rfl

/-- A name that is free goes to the task. -/
private theorem nodes_give {name : NodeName}
    (hnodes : claims.nodes =
      reported.map (withHolder (holdersAfter holders id listed)))
    (hfree : holdersAfter holders id listed name = none) :
    (claims.give id name).nodes =
      reported.map (withHolder (holdersAfter holders id (name :: listed))) := by
  rw [give, hnodes, List.map_map]
  refine List.map_congr_left fun node _ => ?_
  rw [withHolder, holdersAfter_cons, hfree]
  by_cases hname : node.name = name
  · simp [withHolder, hname]
  · simp [withHolder, hname]

/-- Where the holders are known, a search by name finds them. -/
private theorem find?_map_withHolder (name : NodeName) :
    (reported.map (withHolder holders)).find? (fun node => node.name = name) =
      (reported.find? fun node => node.name = name).map
        (withHolder holders) := by
  rw [List.find?_map]
  rfl

/-- What a claim does where the holders are known. -/
theorem claim_eq (hnodes : claims.nodes = reported.map (withHolder holders))
    (name : NodeName) :
    claims.claim id name =
      if reported.any fun node => node.name = name then
        match holders name with
        | none => claims.give id name
        | some holder => claims.contest id ⟨name, holder⟩
      else claims := by
  rw [claim, hnodes, find?_map_withHolder]
  cases hfound : reported.find? fun node => node.name = name with
  | none =>
    rw [if_neg]
    · rfl
    · simpa using hfound
  | some node =>
    have hname : node.name = name := by simpa using List.find?_some hfound
    have hactive : reported.any fun node => node.name = name :=
      List.any_eq_true.mpr
        ⟨node, List.mem_of_find?_eq_some hfound, by simp [hname]⟩
    rw [if_pos hactive, ← hname]
    rfl

/-- A listing is contested exactly if the claim finds the node held. -/
theorem contestedNames_cons {active : NodeName → Bool}
    {final : NodeName → Option TaskId} {name : NodeName} (rest : List NodeName)
    (hother : holders name ≠ some id)
    (hfinal : final name = (holders name).or (some id)) :
    contestedNames active final id listed (name :: rest) =
      (if active name then
        ((holdersAfter holders id listed name).map fun holder =>
          ⟨name, holder⟩).toList
      else []) ++ contestedNames active final id (name :: listed) rest := by
  rw [contestedNames, hfinal, holdersAfter]
  cases hactive : active name with
  | false => cases holders name <;> simp
  | true =>
    cases hholder : holders name with
    | some holder =>
      have hne : holder ≠ id :=
        fun h => hother (hholder.trans (congrArg some h))
      simp [hne]
    | none =>
      by_cases hlisted : name ∈ listed
      · simp [hlisted]
      · simp [hlisted]

/-- A task that claims its names contests those that are held when it comes to
them, and gets the others. -/
theorem foldl_claim {final : NodeName → Option TaskId} {names : List NodeName}
    (hnodes : claims.nodes =
      reported.map (withHolder (holdersAfter holders id listed)))
    (hother : ∀ name, holders name ≠ some id)
    (hfinal : ∀ name ∈ names, final name = (holders name).or (some id)) :
    names.foldl (claim id) claims =
      (contestedNames (fun name => reported.any fun node => node.name = name)
          final id listed names).foldl (contest · id ·)
            { claims with
              nodes := reported.map (withHolder (holdersAfter holders id
                (names.reverse ++ listed))) } := by
  induction names generalizing listed claims with
  | nil =>
    rw [contestedNames, List.foldl_nil, List.foldl_nil, List.reverse_nil,
      List.nil_append, ← hnodes]
  | cons name rest ih =>
    have hrest :=
      fun other hmem => hfinal other (List.mem_cons_of_mem name hmem)
    rw [List.foldl_cons, claim_eq hnodes,
      contestedNames_cons rest (hother name) (hfinal name List.mem_cons_self),
      List.foldl_append, List.reverse_cons, List.append_assoc,
      List.singleton_append]
    split
    case isTrue hactive =>
      cases hholder : holdersAfter holders id listed name with
      | none => exact ih (nodes_give hnodes hholder) hrest
      | some holder =>
        exact ih
          (hnodes.trans (map_withHolder_cons (Or.inr ⟨holder, hholder⟩)).symm)
          hrest
    case isFalse habsent =>
      refine ih (hnodes.trans (map_withHolder_cons (Or.inl ?_)).symm) hrest
      simpa using habsent

end Names

section Tasks

variable {reported : List Node} {earlier tasks : List Task} {task : Task}

/-- What comes after the conflict of a task is only counted. -/
private theorem foldl_contest_of_get?_eq_some {id : TaskId}
    {conflicts : OrderedMap TaskId NodeConflict} {first : NodeConflict}
    (hfirst : conflicts.get? id = some first) (nodes : List Node) (count : Nat)
    (listings : List NodeConflict) :
    listings.foldl (contest · id ·) ⟨nodes, conflicts, count⟩ =
      ⟨nodes, conflicts, count + listings.length⟩ := by
  induction listings generalizing count with
  | nil => rfl
  | cons listing rest ih =>
    rw [List.foldl_cons, contest, OrderedMap.combine_of_get?_eq_some hfirst, ih,
      List.length_cons, Nat.add_assoc, Nat.add_comm 1]

/-- Of the contested listings of a task all are counted, and the first one is
kept. -/
theorem foldl_contest {id : TaskId} {conflicts : OrderedMap TaskId NodeConflict}
    (hnone : conflicts.get? id = none) (nodes : List Node) (count : Nat)
    (listings : List NodeConflict) :
    listings.foldl (contest · id ·) ⟨nodes, conflicts, count⟩ =
      ⟨nodes,
        conflicts.insertAll
          (listings.head?.map fun first => (id, first)).toList,
        count + listings.length⟩ := by
  cases listings with
  | nil => rfl
  | cons listing rest =>
    have hfirst : (conflicts.insert id listing).get? id = some listing := by
      rw [OrderedMap.get?_insert, if_pos rfl]
    rw [List.foldl_cons, contest, OrderedMap.combine, hnone,
      foldl_contest_of_get?_eq_some hfirst, List.length_cons, Nat.add_assoc,
      Nat.add_comm 1]
    rfl

/-- What the tasks leave when all of them have claimed their nodes. -/
def outcome (reported : List Node) (tasks : List Task) : NodeClaims where
  nodes := reported.map (withHolder (holder? tasks))
  conflicts :=
    OrderedMap.ofList (tasks.filterMap fun task =>
      (contested reported tasks task).head?.map fun conflict =>
        (task.id, conflict))
  doubleBooked := (tasks.flatMap (contested reported tasks)).length

/-- One task more changes who holds nodes and adds its own contested
listings. -/
theorem outcome_concat : outcome reported (earlier ++ [task]) =
    ⟨reported.map (withHolder (holder? (earlier ++ [task]))),
      (outcome reported earlier).conflicts.insertAll
        ((contested reported (earlier ++ [task]) task).head?.map fun conflict =>
          (task.id, conflict)).toList,
      (outcome reported earlier).doubleBooked +
        (contested reported (earlier ++ [task]) task).length⟩ := by
  have hconflicts :
      (earlier.filterMap fun other =>
          (contested reported (earlier ++ [task])
            other).head?.map fun conflict => (other.id, conflict)) =
        earlier.filterMap fun other =>
          (contested reported earlier other).head?.map fun conflict =>
            (other.id, conflict) :=
    List.filterMap_congr fun other hother => by
      rw [contested_concat task hother]
  have hcounted : earlier.flatMap (contested reported (earlier ++ [task])) =
      earlier.flatMap (contested reported earlier) :=
    List.flatMap_congr fun other hother => contested_concat task hother
  rw [outcome, List.filterMap_append, hconflicts, List.flatMap_append, hcounted,
    List.length_append, List.flatMap_singleton, OrderedMap.ofList,
    OrderedMap.insertAll, List.foldl_append]
  rfl

/-- A task that is not scheduled claims nothing. -/
theorem outcome_concat_of_idle (hidle : ¬ task.isScheduled) :
    outcome reported (earlier ++ [task]) = outcome reported earlier := by
  have hholder : holder? (earlier ++ [task]) = holder? earlier := by
    funext name
    simp [holder?_concat, hidle]
  rw [outcome_concat, contested, if_neg hidle, hholder]
  rfl

/-- A scheduled task makes its claims on what the earlier tasks have left. -/
theorem claimAll_outcome (hfresh : task.id ∉ earlier.map Task.id)
    (hscheduled : task.isScheduled) :
    (outcome reported earlier).claimAll task =
      outcome reported (earlier ++ [task]) := by
  have hother : ∀ name, holder? earlier name ≠ some task.id := by
    intro name hholder
    obtain ⟨holder, hmem, hid, -⟩ := exists_of_holder?_eq_some hholder
    exact hfresh (hid ▸ List.mem_map_of_mem hmem)
  have hnone : (outcome reported earlier).conflicts.get? task.id = none := by
    apply OrderedMap.get?_ofList_eq_none_iff.mpr
    intro entry hentry hid
    obtain ⟨other, hmem, hlisted⟩ := List.mem_filterMap.mp hentry
    obtain ⟨_, -, rfl⟩ := Option.map_eq_some_iff.mp hlisted
    exact hfresh (hid ▸ List.mem_map_of_mem hmem)
  have hbefore :
      holder? earlier = holdersAfter (holder? earlier) task.id [] := by
    funext name
    simp [holdersAfter]
  have hafter : holder? (earlier ++ [task]) =
      holdersAfter (holder? earlier) task.id
        (task.assignedNodes.reverse ++ []) := by
    funext name
    simp [holder?_concat, holdersAfter, hscheduled]
  have hfinal : ∀ name ∈ task.assignedNodes,
      holder? (earlier ++ [task]) name =
        (holder? earlier name).or (some task.id) := by
    intro name hlisted
    rw [holder?_concat, if_pos ⟨hscheduled, hlisted⟩]
  have hnodes : (outcome reported earlier).nodes =
      reported.map (withHolder (holdersAfter (holder? earlier) task.id [])) :=
    congrArg (fun holders => reported.map (withHolder holders)) hbefore
  rw [claimAll, foldl_claim hnodes hother hfinal, ← hafter, foldl_contest hnone,
    outcome_concat, contested, if_pos hscheduled]

/-- The claims of tasks that have ids of their own. -/
theorem ofTasks_eq (hids : (tasks.map Task.id).Nodup) :
    ofTasks reported tasks = outcome reported tasks := by
  induction tasks using List.reverseRecOn with
  | nil => rfl
  | append_singleton earlier task ih =>
    rw [List.map_append, List.map_singleton, List.nodup_append] at hids
    have hfresh : task.id ∉ earlier.map Task.id := fun hmem =>
      hids.2.2 _ hmem _ List.mem_cons_self rfl
    rw [ofTasks, List.filter_append, List.foldl_append, ← ofTasks, ih hids.1]
    cases hscheduled : task.isScheduled with
    | true =>
      rw [List.filter_cons_of_pos hscheduled]
      exact claimAll_outcome hfresh hscheduled
    | false =>
      rw [List.filter_cons_of_neg (by simp [hscheduled])]
      exact (outcome_concat_of_idle (by simp [hscheduled])).symm

/-- Who reports to hold a node does not matter. -/
theorem ofTasks_congr {left right : List Node}
    (hsame : left.map Node.vacated = right.map Node.vacated) :
    ofTasks left tasks = ofTasks right tasks := by
  rw [ofTasks, vacant, hsame, ofTasks, vacant]

/-- The occupant of a node is the task that holds it. -/
theorem occupant?_outcome {node : Node} (hnode : node ∈ reported) :
    (outcome reported tasks).occupant? node.name = holder? tasks node.name := by
  rw [occupant?, outcome, find?_map_withHolder]
  cases hfound : reported.find? fun other => other.name = node.name with
  | none => simpa using List.find?_eq_none.mp hfound node hnode
  | some other =>
    have hname : other.name = node.name := by simpa using List.find?_some hfound
    exact congrArg (holder? tasks) hname

end Tasks

end ClusterTick.NodeClaims
