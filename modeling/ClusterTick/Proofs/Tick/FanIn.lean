import ClusterTick.Proofs.Tick.Assembly
import ClusterTick.Tick.FanOut
import Mathlib.Data.List.Perm.Basic

/-!
# Collecting the outcomes of many workers

The executor may let the workers of a tick finish in any order, and no order is
out of its reach.  The outcomes are put together by group, so all orders come to
the assignment of a tick that matches one group after the other.  What is left
of the executor is how long it is waited for, and whether it fails.
-/

namespace ClusterTick

/-- The groups that a tick trains, each with a worker of its own. -/
def Tick.trainingWorkers (snapshot : Snapshot) (config : EngineConfig) :
    List Partition :=
  trainingPartitions (prepare snapshot config)
    (validationPhase (prepare snapshot config))

namespace Executor

variable {m : Type → Type} [Monad m]

/-- Waits until so many workers are done. -/
def awaitAll (executor : Executor m) : Nat → m Unit
  | 0 => return ()
  | others + 1 => do
    let _ ← executor.next others
    executor.awaitAll others

/-- Waits for all workers of a tick. -/
def awaitTick (executor : Executor m) (snapshot : Snapshot)
    (config : EngineConfig) : m Unit := do
  executor.prepared
  executor.awaitAll (Tick.trainingWorkers snapshot config).length

private theorem awaitAll_inOrder [LawfulMonad m] (count : Nat) :
    (inOrder : Executor m).awaitAll count = pure () := by
  induction count with
  | zero => rfl
  | succ others ih => rw [awaitAll, ih, inOrder, pure_bind]

theorem awaitTick_inOrder [LawfulMonad m] (snapshot : Snapshot)
    (config : EngineConfig) :
    (inOrder : Executor m).awaitTick snapshot config = pure () := by
  rw [awaitTick, awaitAll_inOrder, inOrder, pure_bind]

/-- An executor that lets a certain worker finish while there are so many
others, and goes on as another one does. -/
def choosing {others : Nat} (finished : Fin (others + 1))
    (executor : Executor Id) : Executor Id where
  prepared := executor.prepared
  next count := if hcount : others = count then finished.cast (by rw [hcount])
    else executor.next count

end Executor

namespace Tick

section Collect

variable {m : Type → Type} [Monad m]

/-- Taking out the worker that is done leaves the others. -/
theorem outcome_cons_perm {others : Nat}
    (running : Vector Partition (others + 1)) (finished : Fin (others + 1)) :
    (trainingOutcome (running.get finished) ::
        (running.eraseIdx finished finished.isLt).toList.map
          trainingOutcome).Perm (running.toList.map trainingOutcome) := by
  have hlength : finished.val < running.toList.length := by
    rw [Vector.length_toList]
    exact finished.isLt
  have hperm := List.getElem_cons_eraseIdx_perm hlength
  rw [Vector.toList_eraseIdx]
  exact hperm.map trainingOutcome

/-- To someone who does not care about the order of the outcomes, collecting
them is waiting for them. -/
theorem collect_bind [LawfulMonad m] (executor : Executor m) {α : Type}
    {count : Nat} (running : Vector Partition count)
    (use : List GroupOutcome → m α) (result : m α)
    (huse : ∀ outcomes, outcomes.Perm (running.toList.map trainingOutcome) →
      use outcomes = result) :
    (collect executor count running >>= use) =
      executor.awaitAll count >>= fun _ => result := by
  -- What is done with the later outcomes depends on the ones that are in
  -- already.
  induction count generalizing use with
  | zero => simp [collect, Executor.awaitAll, huse]
  | succ others ih =>
    simp only [collect, Executor.awaitAll, bind_assoc, pure_bind]
    congr 1
    funext finished
    apply ih
    intro outcomes hperm
    apply huse
    exact (hperm.cons _).trans (outcome_cons_perm running finished)

/-- How a worker is chosen matters only while there are so many. -/
theorem collect_congr {left right : Executor m} {count : Nat}
    (running : Vector Partition count)
    (hsame : ∀ others < count, left.next others = right.next others) :
    collect left count running = collect right count running := by
  induction count with
  | zero => rfl
  | succ others ih =>
    simp only [collect]
    rw [hsame others (Nat.lt_succ_self others)]
    congr 1
    funext finished
    rw [ih]
    exact fun fewer hfewer => hsame fewer (Nat.lt_succ_of_lt hfewer)

theorem collect_perm (executor : Executor Id) {count : Nat}
    (running : Vector Partition count) :
    (collect executor count running).run.Perm
      (running.toList.map trainingOutcome) := by
  induction count with
  | zero => simp [collect]
  | succ others ih =>
    simp only [collect]
    exact ((ih _).cons _).trans (outcome_cons_perm running _)

/-- Every order of the outcomes is one in which the workers may finish. -/
theorem exists_collect_eq {count : Nat} (running : Vector Partition count)
    {order : List GroupOutcome}
    (hperm : order.Perm (running.toList.map trainingOutcome)) :
    ∃ executor : Executor Id, (collect executor count running).run = order := by
  induction count generalizing order with
  | zero =>
    have hlength : order.length = 0 := by simpa using hperm.length_eq
    exact ⟨.inOrder, (List.eq_nil_of_length_eq_zero hlength).symm⟩
  | succ others ih =>
    cases order with
    | nil => simpa using hperm.length_eq
    | cons first rest =>
      have hfirst : first ∈ running.toList.map trainingOutcome :=
        hperm.subset List.mem_cons_self
      obtain ⟨partition, hpartition, rfl⟩ := List.mem_map.mp hfirst
      obtain ⟨index, hindex, rfl⟩ := List.mem_iff_getElem.mp hpartition
      let finished : Fin (others + 1) :=
        ⟨index, by rwa [Vector.length_toList] at hindex⟩
      let left := running.eraseIdx finished finished.isLt
      have hrest : rest.Perm (left.toList.map trainingOutcome) := by
        apply List.Perm.cons_inv
        exact hperm.trans (outcome_cons_perm running finished).symm
      obtain ⟨executor, hexecutor⟩ := ih _ hrest
      -- It has been asked about fewer workers only, so it may be told what to
      -- do now.
      refine ⟨executor.choosing finished, ?_⟩
      have hlater : collect (executor.choosing finished) others left =
          collect executor others left := by
        apply collect_congr
        intro fewer hfewer
        exact dif_neg (Nat.ne_of_gt hfewer)
      have hnow : (executor.choosing finished).next others = finished :=
        dif_pos rfl
      rw [collect, hnow]
      change trainingOutcome (running.get finished) ::
        collect (executor.choosing finished) others left = _
      rw [hlater]
      exact congrArg (List.cons _) hexecutor

end Collect

section Run

variable (snapshot : Snapshot) (config : EngineConfig)

/-- The outcomes of the training workers of a tick, as they are done. -/
def arrivals (executor : Executor Id) : List GroupOutcome :=
  (collect executor _ (trainingWorkers snapshot config).toArray.toVector).run

private theorem nodup_groups (prepared : Prepared) :
    ((trainingOutcomes prepared (validationPhase prepared)).map
      GroupOutcome.group).Nodup := by
  have hgroups : (passGroups prepared .training).Nodup := nodup_sortedKeys _
  rw [trainingOutcomes_eq, List.map_map]
  simpa [Function.comp_def] using hgroups

/-- Each group has one outcome, so the order in which they come is forgotten. -/
theorem assemble_of_perm {prepared : Prepared} {training : List GroupOutcome}
    (hperm : training.Perm
      (trainingOutcomes prepared (validationPhase prepared)))
    (decidedAt : Instant) :
    assemble prepared.workingSet (validationPhase prepared) training decidedAt =
      assemble prepared.workingSet (validationPhase prepared)
        (trainingOutcomes prepared (validationPhase prepared)) decidedAt := by
  rw [assemble, assemble, mergeSort_key_of_perm (nodup_groups prepared) hperm]

/-- The training groups may be finished in any order. -/
theorem scheduleFinishing_eq {finish : List GroupOutcome → List GroupOutcome}
    (hfinish :
      let prepared := prepare snapshot config
      let training := trainingOutcomes prepared (validationPhase prepared)
      (finish training).Perm training)
    (decidedAt : Instant) :
    scheduleFinishing finish snapshot config decidedAt =
      schedule snapshot config decidedAt := by
  simp only [schedule, scheduleFinishing]
  rw [assemble_of_perm hfinish]

/-- The time of decision is only noted down. -/
theorem schedule_decidedAt (before decidedAt : Instant) :
    schedule snapshot config decidedAt =
      { schedule snapshot config before with
        assignment :=
            { (schedule snapshot config before).assignment with
              decidedAt } } := by
  simp only [schedule, scheduleFinishing, assemble]

/-- On any executor a tick is the wait for its workers and then the tick that
matches one group after the other. -/
theorem runTick_eq {m : Type → Type} [Monad m] [LawfulMonad m]
    (executor : Executor m) (decidedAt : Instant) :
    runTick executor snapshot config decidedAt =
      executor.awaitTick snapshot config >>=
        fun _ => pure (schedule snapshot config decidedAt) := by
  simp only [runTick, Executor.awaitTick, bind_assoc]
  congr 1
  funext _
  apply collect_bind
  intro outcomes hperm
  have hfinished :
      scheduleFinishing (fun _ => outcomes) snapshot config decidedAt =
        schedule snapshot config decidedAt :=
    scheduleFinishing_eq snapshot config hperm decidedAt
  exact congrArg pure hfinished

/-- Workers that are done in order need not be waited for. -/
theorem runTick_inOrder {m : Type → Type} [Monad m] [LawfulMonad m]
    (decidedAt : Instant) :
    runTick (.inOrder : Executor m) snapshot config decidedAt =
      pure (schedule snapshot config decidedAt) := by
  rw [runTick_eq, Executor.awaitTick_inOrder, pure_bind]

/-- The outcomes may arrive in every order and in no other way, and whatever the
order, the tick comes to what one group after the other would have come to. -/
theorem runTick_any_order (decidedAt other : Instant) :
    (∀ order, (∃ executor, arrivals snapshot config executor = order) ↔
      order.Perm ((trainingWorkers snapshot config).map trainingOutcome)) ∧
    ∀ executor : Executor Id, (runTick executor snapshot config decidedAt).run =
      { schedule snapshot config other with
        assignment :=
            { (schedule snapshot config other).assignment with
              decidedAt } } := by
  constructor
  · intro order
    constructor
    · rintro ⟨executor, rfl⟩
      exact collect_perm executor _
    · intro hperm
      exact exists_collect_eq (trainingWorkers snapshot config).toArray.toVector
        hperm
  · intro executor
    rw [runTick_eq, schedule_decidedAt snapshot config other decidedAt]
    rfl

end Run

end Tick

end ClusterTick
