import ClusterTick.Proofs.Tick.Disguise
import ClusterTick.Proofs.Tick.PreemptionSafety

/-!
# External users choose no priority

The priority that the task of an external user names is carried along and
echoed, but nothing is decided by it.  So a tick over other choices of external
users places, suspends and turns down the same tasks with the same words.
-/

namespace ClusterTick

/-- Whether a user is external by its last row in a snapshot. -/
def Snapshot.isExternal (snapshot : Snapshot) (name : UserName) : Bool :=
  (snapshot.users.reverse.find? fun user =>
      user.userName = name).any fun user =>
    user.role = .external

/-- Two rows are the same, unless external users have chosen different
priorities. -/
structure Task.SameButChoice (external : UserName → Bool) (left right : Task) :
    Prop where
  rest : { left with priority := right.priority } = right
  choice : left.priority = right.priority ∨ external left.userName

/-- Two snapshots are the same, unless external users have chosen different
priorities. -/
structure Snapshot.SameButChoice (left right : Snapshot) : Prop where
  rest : { left with tasks := right.tasks } = right
  tasks : left.tasks.Forall₂ (Task.SameButChoice left.isExternal) right.tasks

/-- Two assignments decide alike, though at different times and maybe for tasks
with different priorities that external users have chosen. -/
structure Assignment.SameButChoice (external : UserName → Bool)
    (left right : Assignment) : Prop where
  rest :
    { left with tasks := right.tasks, decidedAt := right.decidedAt } = right
  tasks : left.tasks.Forall₂ (Task.SameButChoice external) right.tasks

/-- A row without the choice of an external user. -/
def Task.unchosen (external : UserName → Bool) (task : Task) : Task :=
  { task with priority := if external task.userName then 0 else task.priority }

theorem Task.sameButChoice_iff {external : UserName → Bool}
    {left right : Task} :
    left.SameButChoice external right ↔
      left.unchosen external = right.unchosen external := by
  constructor
  · rintro ⟨hrest, hsame | hexternal⟩
    · rw [← hrest, ← hsame]
    · rw [← hrest]
      simp [unchosen, hexternal]
  · intro hsame
    have huser : left.userName = right.userName :=
      show (left.unchosen external).userName =
        (right.unchosen external).userName by rw [hsame]
    have hpriority : (if external left.userName then 0 else left.priority) =
        if external left.userName then 0 else right.priority := by
      have hboth := congrArg Task.priority hsame
      rwa [unchosen, unchosen, ← huser] at hboth
    refine ⟨congrArg
        (fun task : Task => { task with priority := right.priority }) hsame, ?_⟩
    by_cases hexternal : external left.userName
    · exact Or.inr hexternal
    · rw [if_neg hexternal, if_neg hexternal] at hpriority
      exact Or.inl hpriority

theorem Task.forall₂_sameButChoice_iff {external : UserName → Bool}
    {left right : List Task} :
    left.Forall₂ (SameButChoice external) right ↔
      left.map (unchosen external) = right.map (unchosen external) := by
  have hsame : SameButChoice external =
      fun left right => left.unchosen external = right.unchosen external := by
    funext left right
    exact propext sameButChoice_iff
  rw [hsame, ← List.forall₂_eq_eq_eq, List.forall₂_map_left_iff,
    List.forall₂_map_right_iff]

theorem Assignment.sameButChoice_of_unchosen {external : UserName → Bool}
    {left right : Assignment} {decidedAt : Instant}
    (hsame : { left with
               decidedAt, tasks := left.tasks.map (Task.unchosen external) } =
      { right with
        decidedAt, tasks := right.tasks.map (Task.unchosen external) }) :
    left.SameButChoice external right where
  rest := congrArg (fun assignment : Assignment => { assignment with
    tasks := right.tasks, decidedAt := right.decidedAt }) hsame
  tasks := Task.forall₂_sameButChoice_iff.mpr (congrArg Assignment.tasks hsame)

/-- The choices of external users in disguise. -/
def Disguise.masking (external : UserName → Bool) : Disguise where
  change := Task.unchosen external
  decided := Task.unchosen external
  outline _ := rfl
  id_decided _ := rfl
  withDecision _ _ _ _ := rfl
  place _ _ := rfl
  preempted _ _ := rfl
  normalize _ _ := rfl

section Relates

variable (snapshot : Snapshot) (config : EngineConfig)

/-- The priority that counts for an external user is not the one that the row
names. -/
theorem WorkingSet.effectivePriority_unchosen (task : Task) :
    effectivePriority (Tick.workingSet snapshot config).users
        (task.unchosen snapshot.isExternal) =
      effectivePriority (Tick.workingSet snapshot config).users task := by
  by_cases hexternal : snapshot.isExternal task.userName
  · obtain ⟨view, hview, hrole⟩ :
        ∃ view,
          (Tick.workingSet snapshot config).users.get? task.userName =
            some view ∧
          view.user.isInternal = false := by
      have hfound := user_get?_users snapshot config.defaultGroup task.userName
      rw [Snapshot.isExternal, ← hfound, Option.any_map,
        Option.any_eq_true] at hexternal
      obtain ⟨view, hview, hrole⟩ := hexternal
      refine ⟨view, hview, ?_⟩
      rw [decide_eq_true_eq] at hrole
      simp [User.isInternal, hrole]
    simp [effectivePriority, Task.unchosen, hexternal, hview, hrole]
  · simp [effectivePriority, Task.unchosen, hexternal]

/-- A snapshot without the choices of external users. -/
def Snapshot.unchosen (snapshot : Snapshot) : Snapshot :=
  { snapshot with
    tasks := snapshot.tasks.map (Task.unchosen snapshot.isExternal) }

theorem Disguise.relates_unchosen :
    (masking snapshot.isExternal).Relates config snapshot
      snapshot.unchosen where
  ground := ⟨rfl, rfl⟩
  valid := rfl
  tasks := rfl
  priority := WorkingSet.effectivePriority_unchosen snapshot config

end Relates

theorem Snapshot.SameButChoice.isExternal_eq {left right : Snapshot}
    (hsame : left.SameButChoice right) :
    right.isExternal = left.isExternal := by
  rw [← hsame.rest]
  rfl

theorem Snapshot.SameButChoice.unchosen_eq {left right : Snapshot}
    (hsame : left.SameButChoice right) : left.unchosen = right.unchosen := by
  rw [unchosen, unchosen, hsame.isExternal_eq,
    ← Task.forall₂_sameButChoice_iff.mp hsame.tasks, ← hsame.rest]

namespace Tick

/-- External users cannot choose a priority. -/
theorem schedule_of_sameButChoice {left right : Snapshot}
    (hsame : left.SameButChoice right) (config : EngineConfig)
    (decidedAt other : Instant) :
    (schedule left config decidedAt).assignment.SameButChoice left.isExternal
        (schedule right config other).assignment ∧
      (schedule left config decidedAt).stats =
        (schedule right config other).stats := by
  have hleft := Disguise.relates_unchosen left config
  have hright := Disguise.relates_unchosen right config
  rw [hsame.isExternal_eq, ← hsame.unchosen_eq] at hright
  have hseq : left.unchosen.seq = right.seq := by
    rw [hsame.unchosen_eq]
    rfl
  have hnodes : left.unchosen.nodes = right.nodes := by
    rw [hsame.unchosen_eq]
    rfl
  constructor
  · exact Assignment.sameButChoice_of_unchosen
      ((hleft.schedule_of_seq rfl decidedAt default).symm.trans
        (hright.schedule_of_seq hseq other default))
  · exact (hleft.stats_eq rfl).symm.trans (hright.stats_eq hnodes)

/-- The urgent task belongs to a guest, who has chosen the given priority. -/
def guestTask (priority : Int32) : Snapshot :=
  { urgentTask with
    tasks :=
      urgentTask.tasks.map fun task =>
        if task.isQueued then { task with userName := ⟨"guest"⟩, priority }
        else task
    users := urgentTask.users ++ [
      { userName := ⟨"guest"⟩
        role := .external
        quota :=
          OrderedMap.ofList
            [("node-train-HIGH", 1), ("node-train-AUTO", 1)] }] }

/-- A guest preempts nobody, whatever priority it chooses. -/
theorem schedule_of_sameButChoice_guestTask :
    (guestTask 30).SameButChoice (guestTask (-50)) ∧
      (schedule (guestTask 30) {} default).assignment.SameButChoice
        (guestTask 30).isExternal
        (schedule (guestTask (-50)) {} default).assignment ∧
      (schedule (guestTask 30) {} default).stats =
        (schedule (guestTask (-50)) {} default).stats :=
  have hsame : (guestTask 30).SameButChoice (guestTask (-50)) :=
    ⟨rfl, Task.forall₂_sameButChoice_iff.mpr (by decide)⟩
  ⟨hsame, schedule_of_sameButChoice hsame {} default default⟩

end Tick

end ClusterTick
