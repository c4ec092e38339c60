import ClusterTick.Match.State
import Mathlib.Data.List.Nodup

/-!
# Occupancy of a pool

Matching changes a pool in two ways only: a release frees nodes, and a start
occupies some.  Both leave the rows as they are but for the occupant, and keep
the pool coherent: a node is open exactly if it is free and ready.
-/

namespace ClusterTick

/-- Whether a task holds nodes by a decision. -/
def Decision.holds : Decision → Bool
  | .startup | .keepRunning => true
  | .suspend | .notSure => false

/-- Whether a decided row holds nodes after the tick. -/
def Task.isHolding (row : Task) : Bool := row.processResult.holds

/-- A row with the decision on it. -/
def Task.withDecision (task : Task) (decision : Decision)
    (admission : Admission) (message : String) : Task :=
  { task with
    processResult := decision
    schedulerResult := admission
    schedulerMessage := message }

/-- What a task asks for: its row without anything that a decision sets. -/
def Task.request (task : Task) : Task :=
  { task with
    assignedNodes := []
    runningSeconds := 0
    schedulerResult := .notSure
    processResult := .notSure
    schedulerMessage := "" }

section Request

variable {left right : Task} (hsame : left.request = right.request)

include hsame

theorem Task.id_eq_of_request : left.id = right.id :=
  show left.request.id = right.request.id from congrArg Task.id hsame

theorem Task.chainId_eq_of_request : left.chainId = right.chainId :=
  show left.request.chainId = right.request.chainId from
    congrArg Task.chainId hsame

theorem Task.group_eq_of_request : left.group = right.group :=
  show left.request.group = right.request.group from congrArg Task.group hsame

theorem Task.userName_eq_of_request : left.userName = right.userName :=
  show left.request.userName = right.request.userName from
    congrArg Task.userName hsame

theorem Task.nodes_eq_of_request : left.nodes = right.nodes :=
  show left.request.nodes = right.request.nodes from congrArg Task.nodes hsame

theorem Task.priority_eq_of_request : left.priority = right.priority :=
  show left.request.priority = right.request.priority from
    congrArg Task.priority hsame

theorem Task.isValidation_eq_of_request :
    left.isValidation = right.isValidation :=
  show left.request.isValidation = right.request.isValidation from
    congrArg Task.isValidation hsame

end Request

namespace MatchState

/-- The names of the nodes in the pool. -/
def names (state : MatchState) : List NodeName := state.pool.map (·.node.name)

/-- What the pool has for its nodes apart from their occupants. -/
def frame (state : MatchState) : List Node := state.pool.map (·.node.vacated)

/-- A task holds a node of the pool. -/
def Occupies (state : MatchState) (id : TaskId) (name : NodeName) : Prop :=
  ∃ place ∈ state.pool, place.node.name = name ∧ place.node.working = some id

/-- No node is there twice, and a node is open exactly if it is free and
ready. -/
structure Coherent (state : MatchState) : Prop where
  distinct : state.names.Nodup
  isOpen : ∀ place ∈ state.pool,
    place.isOpen = (place.node.isFree && place.node.isReady)

private theorem names_eq_map_frame (state : MatchState) :
    state.names = state.frame.map Node.name := by
  simp [names, frame, Node.vacated, Function.comp_def]

theorem names_of_frame {left right : MatchState}
    (hframe : left.frame = right.frame) : left.names = right.names := by
  rw [names_eq_map_frame, hframe, names_eq_map_frame]

theorem Occupies.mem_names {state : MatchState} {id : TaskId} {name : NodeName}
    (h : state.Occupies id name) : name ∈ state.names := by
  obtain ⟨place, hplace, rfl, -⟩ := h
  exact List.mem_map_of_mem hplace

theorem Coherent.place_unique {state : MatchState} (hstate : state.Coherent)
    {left right : PoolNode} (hleft : left ∈ state.pool)
    (hright : right ∈ state.pool) (hname : left.node.name = right.node.name) :
    left = right :=
  List.inj_on_of_nodup_map hstate.distinct hleft hright hname

theorem Coherent.of_pool {state next : MatchState} (hstate : state.Coherent)
    (hpool : next.pool = state.pool) : next.Coherent where
  distinct := by
    rw [names, hpool]
    exact hstate.distinct
  isOpen := by
    rw [hpool]
    exact hstate.isOpen

theorem Coherent.occupies_iff {state : MatchState} (hstate : state.Coherent)
    {place : PoolNode} (hplace : place ∈ state.pool) {id : TaskId} :
    state.Occupies id place.node.name ↔ place.node.working = some id := by
  constructor
  · rintro ⟨other, hother, hname, hworking⟩
    rwa [hstate.place_unique hother hplace hname] at hworking
  · exact fun hworking => ⟨place, hplace, rfl, hworking⟩

/-- A node has at most one occupant. -/
theorem Coherent.occupant_unique {state : MatchState} (hstate : state.Coherent)
    {left right : TaskId} {name : NodeName} (hleft : state.Occupies left name)
    (hright : state.Occupies right name) : left = right := by
  obtain ⟨first, hfirst, hfirstName, hfirstWorking⟩ := hleft
  obtain ⟨second, hsecond, hsecondName, hsecondWorking⟩ := hright
  have hsame :=
    hstate.place_unique hfirst hsecond (hfirstName.trans hsecondName.symm)
  rw [hsame, hsecondWorking] at hfirstWorking
  exact (Option.some.inj hfirstWorking).symm

section Pool

/-! ## Changes of the pool -/

variable (state : MatchState) (id : TaskId) (names chosen : List NodeName)
  (place : PoolNode)

@[simp]
theorem vacated_releaseNode :
    (releaseNode id names place).node.vacated = place.node.vacated := by
  rw [releaseNode]
  split <;> rfl

@[simp]
theorem vacated_occupyNode :
    (occupyNode id chosen place).node.vacated = place.node.vacated := by
  rw [occupyNode]
  split <;> rfl

@[simp]
theorem name_releaseNode :
    (releaseNode id names place).node.name = place.node.name := by
  rw [releaseNode]
  split <;> rfl

@[simp]
theorem name_occupyNode :
    (occupyNode id chosen place).node.name = place.node.name := by
  rw [occupyNode]
  split <;> rfl

@[simp]
theorem frame_release : (state.release id names).frame = state.frame := by
  simp [frame, release, Function.comp_def]

@[simp]
theorem names_release : (state.release id names).names = state.names :=
  names_of_frame (frame_release state id names)

theorem coherent_release (hstate : state.Coherent) :
    (state.release id names).Coherent where
  distinct := by
    rw [names_release]
    exact hstate.distinct
  isOpen := by
    intro changed hchanged
    obtain ⟨place, hplace, rfl⟩ := List.mem_map.mp hchanged
    have hopen := hstate.isOpen place hplace
    rw [releaseNode]
    split
    case isTrue hheld =>
      have hworking : place.node.isFree = false := by
        simp only [isHeldBy, Bool.and_eq_true, decide_eq_true_eq] at hheld
        simp [Node.isFree, hheld.2]
      simp only [hworking, Bool.false_and] at hopen
      simp [hopen, Node.isFree, Node.isReady]
    · exact hopen

/-- A release frees the listed nodes that the task holds, and no others. -/
theorem occupies_release_iff {other : TaskId} {name : NodeName} :
    (state.release id names).Occupies other name ↔
      state.Occupies other name ∧ ¬ (other = id ∧ name ∈ names) := by
  constructor
  · rintro ⟨changed, hchanged, hname, hworking⟩
    obtain ⟨place, hplace, rfl⟩ := List.mem_map.mp hchanged
    rw [name_releaseNode] at hname
    rw [releaseNode] at hworking
    split at hworking
    · cases hworking
    case isFalse hheld =>
      refine ⟨⟨place, hplace, hname, hworking⟩, ?_⟩
      rintro ⟨rfl, hlisted⟩
      exact hheld (by simp [isHeldBy, hworking, hname, hlisted])
  · rintro ⟨⟨place, hplace, hname, hworking⟩, hother⟩
    refine ⟨releaseNode id names place, List.mem_map_of_mem hplace,
      by simpa using hname, ?_⟩
    rw [releaseNode, if_neg]
    · exact hworking
    · intro hheld
      simp only [isHeldBy, hworking, hname, List.contains_eq_mem,
        Option.some.injEq, Bool.and_eq_true, decide_eq_true_eq] at hheld
      exact hother ⟨hheld.2, hheld.1⟩

end Pool

section Steps

/-! ## What each step does -/

variable (state : MatchState) (task : Task) (chosen : List NodeName)
  (denial : Denial)
variable (prepared : PreparedTask) (preemptible : Bool)

/-- The holder that a kept task is until it is preempted. -/
def holderOf : Holder :=
  ⟨prepared.id, prepared.effectivePriority, prepared.task.runningSeconds,
    prepared.task.assignedNodes⟩

theorem keep_eq : state.keep prepared preemptible =
    { state with
      holders :=
        if preemptible then state.holders ++ [holderOf prepared]
        else state.holders
      decisions :=
          state.decisions ++
            [prepared.task.withDecision .keepRunning .canRun ""] } := by
  cases preemptible <;> rfl

theorem suspend_eq : state.suspend task denial =
    { state.release task.id task.assignedNodes with
      decisions := state.decisions ++
        [task.withDecision .suspend .cannotRun denial.message] } := rfl

theorem holdBack_eq : state.holdBack task denial =
    { state with
      decisions := state.decisions ++
        [task.withDecision .notSure .cannotRun denial.message] } := rfl

/-- What a task is told that needs more nodes than its group has. -/
def infeasibleMessage (group : GroupName) (active : Nat) (task : Task) :
    String :=
  "infeasible: requests " ++ countText task.nodes.toNat ++
    " nodes but group " ++ group.text ++ " has " ++ countText active ++
    " active nodes"

theorem rejectInfeasible_eq : state.rejectInfeasible task =
    { state with
      infeasible := state.infeasible ++ [task.id]
      decisions := state.decisions ++ [task.withDecision .notSure .cannotRun
        (infeasibleMessage state.group state.active task)] } := rfl

/-- What a waiting task is told, with the number of nodes that are free. -/
def waitingMessage (group : GroupName) (free : Nat) (task : Task) : String :=
  "waiting for " ++ countText task.nodes.toNat ++ " free nodes in group " ++
    group.text ++ " (" ++ countText free ++ " free)"

theorem wait_eq : state.wait task =
    { state with
      decisions := state.decisions ++ [task.withDecision .notSure .canRun
        (waitingMessage state.group state.freeCount task)] } := rfl

/-- The row of a task that starts. -/
def startedRow (group : GroupName) (task : Task) (chosen : List NodeName) :
    Task :=
  { task with assignedNodes := chosen, runningSeconds := 0 }.withDecision
    .startup .canRun
    ("starting on " ++ countText chosen.length ++ " nodes in group " ++
      group.text)

theorem start_eq : state.start task chosen =
    { state with
      pool := state.pool.map (occupyNode task.id chosen)
      decisions := state.decisions ++ [startedRow state.group task chosen] } :=
        rfl

@[simp]
theorem frame_start : (state.start task chosen).frame = state.frame := by
  simp [frame, start_eq, Function.comp_def]

@[simp]
theorem names_start : (state.start task chosen).names = state.names :=
  names_of_frame (frame_start state task chosen)

theorem coherent_start (hstate : state.Coherent) :
    (state.start task chosen).Coherent where
  distinct := by
    rw [names_start]
    exact hstate.distinct
  isOpen := by
    intro changed hchanged
    obtain ⟨place, hplace, rfl⟩ := List.mem_map.mp hchanged
    rw [occupyNode]
    split
    · simp [Node.isFree]
    · exact hstate.isOpen place hplace

/-- A start occupies the chosen nodes, and no others. -/
theorem occupies_start_iff {other : TaskId} {name : NodeName} :
    (state.start task chosen).Occupies other name ↔
      name ∈ chosen ∧ name ∈ state.names ∧ other = task.id ∨
        name ∉ chosen ∧ state.Occupies other name := by
  constructor
  · rintro ⟨changed, hchanged, hname, hworking⟩
    obtain ⟨place, hplace, rfl⟩ := List.mem_map.mp hchanged
    rw [name_occupyNode] at hname
    rw [occupyNode] at hworking
    split at hworking
    case isTrue hchosen =>
      rw [List.contains_iff_mem, hname] at hchosen
      exact Or.inl ⟨hchosen, hname ▸ List.mem_map_of_mem hplace,
        (Option.some.inj hworking).symm⟩
    case isFalse hchosen =>
      rw [List.contains_iff_mem, hname] at hchosen
      exact Or.inr ⟨hchosen, place, hplace, hname, hworking⟩
  · rintro (⟨hchosen, hname, rfl⟩ | ⟨hchosen, place, hplace, hname, hworking⟩)
    · obtain ⟨place, hplace, rfl⟩ := List.mem_map.mp hname
      refine ⟨_, List.mem_map_of_mem hplace, name_occupyNode _ _ _, ?_⟩
      rw [occupyNode, if_pos (List.contains_iff_mem.mpr hchosen)]
    · refine ⟨_, List.mem_map_of_mem hplace,
        (name_occupyNode _ _ _).trans hname, ?_⟩
      rw [occupyNode, if_neg]
      · exact hworking
      · rwa [List.contains_iff_mem, hname]

end Steps

section Free

variable {state : MatchState}

theorem freeCount_eq_length (state : MatchState) :
    state.freeCount = state.freeNodes.length := by
  simp [freeCount, freeNodes]

theorem mem_freeNodes_iff (hstate : state.Coherent) {name : NodeName} :
    name ∈ state.freeNodes.map Node.name ↔
      ∃ place ∈ state.pool, place.node.name = name ∧ place.node.working = none ∧
        place.node.isReady := by
  simp only [freeNodes, List.map_map, List.mem_map, List.mem_filter,
    Function.comp_apply]
  constructor
  · rintro ⟨place, ⟨hplace, hopen⟩, rfl⟩
    rw [hstate.isOpen place hplace, Bool.and_eq_true, Node.isFree,
      Option.isNone_iff_eq_none] at hopen
    exact ⟨place, hplace, rfl, hopen⟩
  · rintro ⟨place, hplace, rfl, hworking, hready⟩
    refine ⟨place, ⟨hplace, ?_⟩, rfl⟩
    rw [hstate.isOpen place hplace, Node.isFree, hworking, hready]
    rfl

theorem nodup_freeNodes (hstate : state.Coherent) :
    (state.freeNodes.map Node.name).Nodup := by
  rw [freeNodes, List.map_map]
  exact hstate.distinct.sublist (List.filter_sublist.map _)

/-- A free node is occupied by nobody. -/
theorem not_occupies_of_free (hstate : state.Coherent) {name : NodeName}
    (hfree : name ∈ state.freeNodes.map Node.name) (id : TaskId) :
    ¬ state.Occupies id name := by
  rintro ⟨occupied, hoccupied, hname, hworking⟩
  obtain ⟨place, hplace, hplaceName, hnone, -⟩ :=
    (mem_freeNodes_iff hstate).mp hfree
  rw [hstate.place_unique hoccupied hplace (hname.trans hplaceName.symm),
    hnone] at hworking
  cases hworking

end Free

end MatchState

end ClusterTick
