import ClusterTick.Match.Pass
import ClusterTick.Proofs.Match.Placement
import ClusterTick.Proofs.Match.Preemption
import ClusterTick.Proofs.Rules.Eligibility

/-!
# A pass as one walk

A pass settles the scheduled tasks, turns down the queued ones that cannot be
placed, and places the others in the order of the queue.  Together this is one
walk over an agenda that holds every task of the pass once.  `Turn` says all
that can happen when the walk comes to a task.
-/

namespace ClusterTick

namespace MatchState

/-- The turn of one candidate. -/
def attend (pass : MatchPass) (valid : Bool) (state : MatchState)
    (candidate : Candidate) : MatchState :=
  if candidate.task.isScheduled then
    state.settle pass candidate
  else if state.isPlaceable candidate then
    state.place pass valid candidate
  else
    state.screen candidate

/-- What does not change while a partition is matched. -/
def header (state : MatchState) : GroupName × Nat := (state.group, state.active)

section Header

variable (state : MatchState) (candidate : Candidate)

@[simp]
theorem header_settle (pass : MatchPass) :
    (state.settle pass candidate).header = state.header := by
  rw [settle]
  split
  · rw [keep_eq]
    rfl
  · rfl

@[simp]
theorem header_screen : (state.screen candidate).header = state.header := by
  rw [screen]
  split
  · rfl
  · split <;> rfl

private theorem header_preemptOne (preemptor victim : TaskId) :
    (state.preemptOne preemptor victim).1.header = state.header := by
  rw [preemptOne]
  split <;> rfl

private theorem header_preempt (preemptor : TaskId) (victims : List TaskId) :
    (state.preempt preemptor victims).1.header = state.header := by
  induction victims generalizing state with
  | nil => rfl
  | cons victim rest ih =>
    exact (ih _).trans (header_preemptOne state preemptor victim)

theorem header_dismissAll (preemptor : TaskId) (victims : List Holder) :
    (state.dismissAll preemptor victims).header = state.header := by
  induction victims generalizing state with
  | nil => rfl
  | cons victim rest ih =>
    rw [dismissAll, List.foldl_cons]
    exact ih (state.dismiss preemptor victim)

@[simp]
theorem header_place (pass : MatchPass) (valid : Bool) :
    (state.place pass valid candidate).header = state.header := by
  cases pass with
  | training =>
    simp only [place, placeTraining]
    split
    · rfl
    · split
      · rfl
      · split
        · exact header_preempt state _ _
        · exact header_preempt state _ _
  | validation =>
    simp only [place, placeValidation]
    split <;> rfl

@[simp]
theorem header_attend (pass : MatchPass) (valid : Bool) :
    (state.attend pass valid candidate).header = state.header := by
  rw [attend]
  split
  · exact header_settle state candidate pass
  · split
    · exact header_place state candidate pass valid
    · exact header_screen state candidate

/-- Whether a task is placed depends on the size of the group only. -/
theorem isPlaceable_of_header {left right : MatchState}
    (hheader : left.header = right.header) :
    left.isPlaceable = right.isPlaceable := by
  have hactive : left.active = right.active := congrArg Prod.snd hheader
  funext candidate
  simp [isPlaceable, isInfeasible, hactive]

end Header

section Parts

variable {pass : MatchPass} {valid : Bool} {state : MatchState}

theorem foldl_settle_eq {candidates : List Candidate}
    (hscheduled : ∀ candidate ∈ candidates, candidate.task.isScheduled) :
    candidates.foldl (settle pass) state =
      candidates.foldl (attend pass valid) state := by
  refine List.foldl_ext _ _ _ ?_
  intro state candidate hcandidate
  rw [attend, if_pos (hscheduled candidate hcandidate)]

/-- Of the queued tasks only those that cannot be placed are turned down. -/
theorem foldl_screen_eq (pass : MatchPass) (valid : Bool)
    {candidates : List Candidate}
    (hwaiting : ∀ candidate ∈ candidates, candidate.task.isScheduled = false) :
    candidates.foldl screen state =
      (candidates.filter fun candidate => !state.isPlaceable candidate).foldl
        (attend pass valid) state := by
  induction candidates generalizing state with
  | nil => rfl
  | cons candidate rest ih =>
    have hrest :=
      fun other hother => hwaiting other (List.mem_cons_of_mem candidate hother)
    cases hplaceable : state.isPlaceable candidate with
    | true =>
      have hunchanged : state.screen candidate = state := by
        simp only [isPlaceable, Bool.and_eq_true, Bool.not_eq_true',
          Check.passes_iff] at hplaceable
        simp [screen, hplaceable.1, hplaceable.2]
      rw [List.foldl_cons, hunchanged,
        List.filter_cons_of_neg (by simp [hplaceable]), ih hrest]
    | false =>
      have hturn :
          state.attend pass valid candidate = state.screen candidate := by
        rw [attend, hwaiting candidate List.mem_cons_self, hplaceable]
        rfl
      rw [List.foldl_cons, ih hrest,
        isPlaceable_of_header (header_screen state candidate),
        List.filter_cons_of_pos (by simp [hplaceable]), List.foldl_cons, hturn]

theorem foldl_place_eq {candidates : List Candidate}
    (hwaiting : ∀ candidate ∈ candidates, candidate.task.isScheduled = false)
    (hplaceable : ∀ candidate ∈ candidates, state.isPlaceable candidate) :
    candidates.foldl (place pass valid) state =
      candidates.foldl (attend pass valid) state := by
  induction candidates generalizing state with
  | nil => rfl
  | cons candidate rest ih =>
    have hturn : state.attend pass valid candidate =
        state.place pass valid candidate := by
      rw [attend, hwaiting candidate List.mem_cons_self,
        hplaceable candidate List.mem_cons_self]
      rfl
    rw [List.foldl_cons, List.foldl_cons, hturn]
    refine ih
      (fun other hother => hwaiting other (List.mem_cons_of_mem _ hother)) ?_
    intro other hother
    rw [isPlaceable_of_header (header_place state candidate pass valid)]
    exact hplaceable other (List.mem_cons_of_mem _ hother)

private theorem header_foldl_attend (candidates : List Candidate) :
    (candidates.foldl (attend pass valid) state).header = state.header := by
  induction candidates generalizing state with
  | nil => rfl
  | cons candidate rest ih =>
    exact ih.trans (header_attend state candidate pass valid)

end Parts

/-! ## What a turn can do -/

/-- All that can happen at the turn of a candidate. -/
inductive Turn (pass : MatchPass) (valid : Bool) (state : MatchState)
    (candidate : Candidate) : MatchState → Prop
  /-- A scheduled task keeps its nodes. -/
  | keep (hscheduled : candidate.task.isScheduled)
      (hrunning : candidate.verdict.running = .approved) :
      Turn pass valid state candidate
        (state.keep candidate.prepared (pass = .training))
  /-- A scheduled task loses its nodes. -/
  | suspend {denial : Denial} (hscheduled : candidate.task.isScheduled)
      (hrunning : candidate.verdict.running = .denied denial) :
      Turn pass valid state candidate (state.suspend candidate.task denial)
  /-- A queued task is larger than the group. -/
  | reject (hwaiting : candidate.task.isScheduled = false)
      (hlarge : state.isInfeasible candidate.task) :
      Turn pass valid state candidate (state.rejectInfeasible candidate.task)
  /-- A queued task is not admitted. -/
  | holdBack {denial : Denial} (hwaiting : candidate.task.isScheduled = false)
      (hfits : state.isInfeasible candidate.task = false)
      (hadmission : candidate.admission = .denied denial) :
      Turn pass valid state candidate (state.holdBack candidate.task denial)
  /-- A queued task starts on free nodes. -/
  | start {chosen : List NodeName}
      (hwaiting : candidate.task.isScheduled = false)
      (hplaceable : state.isPlaceable candidate)
      (hlength : chosen.length = candidate.task.nodes.toNat)
      (hfree : chosen.Subperm (state.freeNodes.map Node.name)) :
      Turn pass valid state candidate (state.start candidate.task chosen)
  /-- A queued task starts on nodes that preemption has freed.  Each victim is
  below it and gives it a node. -/
  | preempt {victims : List Holder} {chosen : List NodeName}
      (hwaiting : candidate.task.isScheduled = false)
      (hplaceable : state.isPlaceable candidate) (hpass : pass = .training)
      (hvalid : valid) (hshort : state.freeCount < candidate.task.nodes.toNat)
      (hvictims : victims.Subperm state.holders)
      (hbelow : ∀ victim ∈ victims,
        victim.priority < candidate.prepared.effectivePriority)
      (hlength : chosen.length = candidate.task.nodes.toNat)
      (hfree : chosen.Subperm
        ((state.dismissAll candidate.id victims).freeNodes.map Node.name))
      (hused : ∀ victim ∈ victims, ∃ name ∈ chosen, name ∈ victim.nodes) :
      Turn pass valid state candidate
        ((state.dismissAll candidate.id victims).start candidate.task chosen)
  /-- A queued task finds no room, not even by preemption where that is
  allowed. -/
  | wait (hwaiting : candidate.task.isScheduled = false)
      (hplaceable : state.isPlaceable candidate)
      (hshort : state.freeCount < candidate.task.nodes.toNat)
      (hhopeless : pass = .training → valid →
        state.victims? candidate.prepared.effectivePriority
            candidate.task.nodes.toNat = none) :
      Turn pass valid state candidate (state.wait candidate.task)

section Turns

variable {pass : MatchPass} {valid : Bool} {state : MatchState}
  {candidate : Candidate}

private theorem turn_settle (hscheduled : candidate.task.isScheduled) :
    Turn pass valid state candidate (state.settle pass candidate) := by
  rw [settle]
  split
  case h_1 hrunning => exact .keep hscheduled hrunning
  case h_2 denial hrunning => exact .suspend hscheduled hrunning

private theorem turn_screen (hwaiting : candidate.task.isScheduled = false)
    (hplaceable : state.isPlaceable candidate = false) :
    Turn pass valid state candidate (state.screen candidate) := by
  rw [screen]
  cases hlarge : state.isInfeasible candidate.task with
  | true => exact .reject hwaiting hlarge
  | false =>
    cases hadmission : candidate.admission with
    | approved =>
      simp [isPlaceable, hlarge, hadmission, Check.passes] at hplaceable
    | denied denial => exact .holdBack hwaiting hlarge hadmission

private theorem turn_placeValidation
    (hwaiting : candidate.task.isScheduled = false)
    (hplaceable : state.isPlaceable candidate) :
    Turn .validation valid state candidate
      (state.placeValidation candidate) := by
  rw [placeValidation]
  split
  case h_1 chosen hchosen =>
    obtain ⟨hlength, hfree⟩ := Placement.selectByName_eq_some hchosen
    exact .start hwaiting hplaceable hlength hfree
  case h_2 hnone =>
    rw [Placement.selectByName_eq_none_iff, ← freeCount_eq_length] at hnone
    exact .wait hwaiting hplaceable hnone nofun

/-- Once victims have been found, the placement succeeds, and on nodes of each
of them. -/
theorem turn_placeTraining (hstate : state.Coherent)
    (hholders : state.SoundHolders)
    (hrows : (state.decisions.map Task.id).Nodup)
    (hwaiting : candidate.task.isScheduled = false)
    (hplaceable : state.isPlaceable candidate) :
    Turn .training valid state candidate
      (state.placeTraining valid candidate) := by
  simp only [placeTraining]
  split
  case h_1 chosen hchosen =>
    obtain ⟨hlength, hfree⟩ := Placement.selectNodes_eq_some hchosen
    exact .start hwaiting hplaceable hlength hfree
  case h_2 hnone =>
    have hshort : state.freeCount < candidate.task.nodes.toNat := by
      rwa [Placement.selectNodes_eq_none_iff, ← freeCount_eq_length] at hnone
    split
    case h_1 hhopeless =>
      exact .wait hwaiting hplaceable hshort fun _ hvalid => by
        rwa [if_pos hvalid] at hhopeless
    case h_2 victims hvictims =>
      have hvalid : valid := by
        cases valid with
        | true => rfl
        | false => cases hvictims
      rw [if_pos hvalid] at hvictims
      obtain ⟨taken, rfl, hsub, hbelow, henough, hneeded⟩ :=
        victims?_eq_some hvictims
      have hdistinct := nodup_ids_of_subperm hholders.distinct hsub
      have honce :=
        fun victim hvictim => hholders.listedOnce victim (hsub.subset hvictim)
      rw [preempt_eq hholders.distinct hrows hdistinct fun _ hvictim =>
        hsub.subset hvictim]
      split
      case h_1 chosen hchosen =>
        obtain ⟨hlength, hfree⟩ := Placement.selectNodes_eq_some hchosen
        refine .preempt hwaiting hplaceable rfl hvalid hshort hsub hbelow
          hlength hfree ?_
        intro victim hvictim
        refine exists_chosen_of_victim hstate hdistinct honce hvictim hfree ?_
        rw [hlength]
        exact hneeded victim hvictim
      case h_2 hfailed =>
        rw [Placement.selectNodes_eq_none_iff, ← freeCount_eq_length,
          freeCount_dismissAll hstate hdistinct honce] at hfailed
        omega

theorem turn_attend (hstate : state.Coherent) (hholders : state.SoundHolders)
    (hrows : (state.decisions.map Task.id).Nodup) :
    Turn pass valid state candidate (state.attend pass valid candidate) := by
  rw [attend]
  cases hscheduled : candidate.task.isScheduled with
  | true => exact turn_settle hscheduled
  | false =>
    cases hplaceable : state.isPlaceable candidate with
    | false => exact turn_screen hscheduled hplaceable
    | true =>
      cases pass with
      | training =>
        exact turn_placeTraining hstate hholders hrows hscheduled hplaceable
      | validation => exact turn_placeValidation hscheduled hplaceable

end Turns

end MatchState

namespace Partition

variable (partition : Partition) (pass : MatchPass)

/-- The state before the first turn. -/
def opening : MatchState := MatchState.ofNodes partition.group partition.nodes

/-- The tasks of a pass in the order of their turns. -/
def agenda : List Candidate :=
  partition.holding pass ++
    ((partition.waiting pass).filter fun candidate =>
      !partition.opening.isPlaceable candidate) ++
    partition.queue pass

/-- The state after the turns of the given tasks. -/
def walk (done : List Candidate) : MatchState :=
  done.foldl (MatchState.attend pass partition.valid) partition.opening

theorem walk_append_singleton (done : List Candidate) (candidate : Candidate) :
    partition.walk pass (done ++ [candidate]) =
      (partition.walk pass done).attend pass partition.valid candidate := by
  rw [walk, List.foldl_append]
  rfl

theorem header_walk (done : List Candidate) :
    (partition.walk pass done).header =
      (partition.group, partition.nodes.length) :=
  MatchState.header_foldl_attend done

theorem isScheduled_of_mem_holding {candidate : Candidate}
    (hcandidate : candidate ∈ partition.holding pass) :
    candidate.task.isScheduled := by
  rw [holding, List.mem_filter] at hcandidate
  exact hcandidate.2

theorem isScheduled_of_mem_waiting {candidate : Candidate}
    (hcandidate : candidate ∈ partition.waiting pass) :
    candidate.task.isScheduled = false := by
  rw [waiting, List.mem_filter] at hcandidate
  simpa using hcandidate.2

theorem settled_eq :
    partition.settled pass = partition.walk pass (partition.holding pass) :=
  MatchState.foldl_settle_eq fun _ => partition.isScheduled_of_mem_holding pass

theorem isPlaceable_walk (done : List Candidate) :
    (partition.walk pass done).isPlaceable = partition.opening.isPlaceable :=
  MatchState.isPlaceable_of_header (partition.header_walk pass done)

theorem isPlaceable_settled : (partition.settled pass).isPlaceable =
    partition.opening.isPlaceable := by
  rw [settled_eq, isPlaceable_walk]

theorem mem_queue_iff {candidate : Candidate} :
    candidate ∈ partition.queue pass ↔
      candidate ∈ partition.waiting pass ∧
        partition.opening.isPlaceable candidate := by
  rw [queue, List.mem_mergeSort, List.mem_filter, isPlaceable_settled]

/-- The queued tasks that cannot be placed come after the scheduled ones. -/
theorem screened_eq :
    partition.screened pass =
      partition.walk pass
        (partition.holding pass ++
          (partition.waiting pass).filter fun candidate =>
            !partition.opening.isPlaceable candidate) := by
  rw [screened,
    MatchState.foldl_screen_eq pass partition.valid
      (fun _ => partition.isScheduled_of_mem_waiting pass), isPlaceable_settled,
    settled_eq, walk, walk, List.foldl_append]

/-- A pass is a walk over its agenda. -/
theorem run_eq :
    partition.run pass =
      (partition.walk pass (partition.agenda pass)).outcome := by
  have hqueue : ∀ candidate ∈ partition.queue pass,
      candidate ∈ partition.waiting pass ∧
        partition.opening.isPlaceable candidate :=
    fun _ => (partition.mem_queue_iff pass).mp
  have hplaced :
      (partition.queue pass).foldl (MatchState.place pass partition.valid)
          (partition.screened pass) =
        (partition.queue pass).foldl (MatchState.attend pass partition.valid)
          (partition.screened pass) := by
    apply MatchState.foldl_place_eq
    · intro candidate hcandidate
      exact partition.isScheduled_of_mem_waiting pass
        (hqueue candidate hcandidate).1
    · intro candidate hcandidate
      rw [screened_eq, isPlaceable_walk]
      exact (hqueue candidate hcandidate).2
  rw [run, hplaced, screened_eq, agenda, walk, walk, ← List.foldl_append]

/-- Every task of the pass has one turn. -/
theorem agenda_perm :
    (partition.agenda pass).Perm (partition.decided pass) := by
  have hqueue : (partition.queue pass).Perm
      ((partition.waiting pass).filter partition.opening.isPlaceable) := by
    rw [queue, isPlaceable_settled]
    exact List.mergeSort_perm _ _
  have hwaiting : ((partition.waiting pass).filter (fun candidate =>
      !partition.opening.isPlaceable candidate) ++ partition.queue pass).Perm
        (partition.waiting pass) :=
    (List.perm_append_comm.trans (hqueue.append_right _)).trans
      (List.filter_append_perm partition.opening.isPlaceable _)
  rw [agenda, List.append_assoc]
  exact (hwaiting.append_left _).trans (List.filter_append_perm
    (fun candidate : Candidate => candidate.task.isScheduled) _)

end Partition

end ClusterTick
