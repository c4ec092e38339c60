import ClusterTick.Proofs.Tick.FanIn
import ClusterTick.Worker.Worker

/-!
# One tick of a worker

A tick is seen from outside: what the worker asks its collaborators, what they
answer, and what it comes to.  The collaborators have a state of their own and
may do to it what they like whenever they are asked, so a snapshot may be
replaced and a service may break down or recover between any two questions.  A
tick takes one of eight ways, and `attempt_passage` is all that later proofs
know of them.
-/

namespace ClusterTick

/-- A question of a worker, and the answer to it. -/
inductive Call where
  | latest (answer : Except SnapshotFault Snapshot)
  | latestSeq (answer : Except SnapshotFault (Option SnapshotSeq))
  | commit (assignment : Assignment) (answer : Except CommitFault Unit)
  | dispatch (batch : IntentBatch) (delivered : Bool)

/-- What a tick is given besides the answers of the collaborators. -/
structure TickInput where
  times : TickTimes
  /-- The workers of the tick, which may fail and be done in any order. -/
  executor : Executor (Except WorkerFault)

/-- A tick that is over. -/
structure Episode where
  decidedAt : Instant
  calls : List Call
  result : Except WorkerFault (Except TickFault TickResult)

/-- Whether a tick came to a commit. -/
def Episode.isCommit (episode : Episode) : Bool :=
  match episode.result with
  | .ok (.ok (.committed ..)) => true
  | _ => false

/-- A worker and its collaborators after a tick. -/
structure Attempt (σ : Type) where
  worker : Worker
  site : σ
  episode : Episode

variable {σ : Type}

/-- Computations that may lose a worker, and that note down what is asked of the
collaborators. -/
abbrev Recorded (σ : Type) : Type → Type :=
  ExceptT WorkerFault (StateM (σ × List Call))

/-- Asks the collaborators and notes down the answer. -/
def Recorded.ask {α : Type} (question : StateM σ α) (call : α → Call) :
    Recorded σ α :=
  ExceptT.mk fun state =>
    let result := question.run state.1
    (.ok result.1, result.2, state.2 ++ [call result.1])

def Collaborators.recorded (collaborators : Collaborators (StateM σ)) :
    Collaborators (Recorded σ) where
  latest := .ask collaborators.latest .latest
  latestSeq := .ask collaborators.latestSeq .latestSeq
  commit assignment :=
    .ask (collaborators.commit assignment) (.commit assignment)
  dispatch batch := .ask (collaborators.dispatch batch) (.dispatch batch)

/-- Workers that leave the collaborators alone. -/
def Executor.detached (executor : Executor (Except WorkerFault)) :
    Executor (Recorded σ) where
  prepared := ExceptT.mk (pure executor.prepared)
  next others := ExceptT.mk (pure (executor.next others))

/-- What is left of a tick.  A worker that loses its workers stays as it was. -/
def Worker.conclude (worker : Worker) (input : TickInput) :
    Except WorkerFault (Worker × Except TickFault TickResult) × σ × List Call →
      Attempt σ
  | (.ok (after, result), site, calls) =>
    ⟨after, site, input.times.decidedAt, calls, .ok result⟩
  | (.error fault, site, calls) =>
    ⟨worker, site, input.times.decidedAt, calls, .error fault⟩

/-- One tick. -/
def Worker.attempt (collaborators : Collaborators (StateM σ)) (worker : Worker)
    (site : σ) (input : TickInput) : Attempt σ :=
  let tick :=
    worker.tickOn input.executor.detached collaborators.recorded input.times
  worker.conclude input (tick.run.run (site, []))

/-- What the workers of a tick make of a snapshot. -/
def TickInput.decide (input : TickInput) (engine : EngineConfig)
    (snapshot : Snapshot) : Except WorkerFault Assignment :=
  TickOutput.assignment <$>
    Tick.runTick input.executor snapshot engine input.times.decidedAt

/-- A worker that has measured a tick. -/
def Worker.measured (worker : Worker) (snapshot : Snapshot)
    (times : TickTimes) : Worker :=
  { worker with
    health :=
      (worker.health.record snapshot.seq snapshot.takenAt times.decidedAt
        times.matching).1 }

/-- A worker that has committed a snapshot. -/
def Worker.advanced (worker : Worker) (seq : SnapshotSeq) : Worker :=
  { worker with checkpoint := worker.checkpoint.advance seq }

/-- The ways that a tick can take. -/
inductive Passage (collaborators : Collaborators (StateM σ)) (worker : Worker)
    (site : σ) (input : TickInput) : Attempt σ → Prop
  /-- There is no complete snapshot yet. -/
  | idle {fault : SnapshotFault} {after : σ}
      (hread : collaborators.latest.run site = (.error fault, after))
      (htransient : fault.isTransient) :
      Passage collaborators worker site input
        ⟨worker, after, input.times.decidedAt, [.latest (.error fault)],
          .ok (.ok .idle)⟩
  /-- The snapshot cannot be read. -/
  | unreadable {fault : SnapshotFault} {after : σ}
      (hread : collaborators.latest.run site = (.error fault, after))
      (hlasting : fault.isTransient = false) :
      Passage collaborators worker site input
        ⟨worker, after, input.times.decidedAt, [.latest (.error fault)],
          .ok (.error (.source fault))⟩
  | skipped {snapshot : Snapshot} {after : σ}
      (hread : collaborators.latest.run site = (.ok snapshot, after))
      (hprocessed : worker.checkpoint.isProcessed snapshot.seq) :
      Passage collaborators worker site input
        ⟨worker, after, input.times.decidedAt, [.latest (.ok snapshot)],
          .ok (.ok (.skipped snapshot.seq))⟩
  /-- A worker of the tick fails. -/
  | lost {snapshot : Snapshot} {fault : WorkerFault} {after : σ}
      (hread : collaborators.latest.run site = (.ok snapshot, after))
      (hfresh : worker.checkpoint.isProcessed snapshot.seq = false)
      (hdecide : input.decide worker.engine snapshot = .error fault) :
      Passage collaborators worker site input
        ⟨worker, after, input.times.decidedAt, [.latest (.ok snapshot)],
          .error fault⟩
  /-- It cannot be told whether the snapshot is the newest. -/
  | unsure {snapshot : Snapshot} {assignment : Assignment}
      {fault : SnapshotFault} {between after : σ}
      (hread : collaborators.latest.run site = (.ok snapshot, between))
      (hfresh : worker.checkpoint.isProcessed snapshot.seq = false)
      (hdecide : input.decide worker.engine snapshot = .ok assignment)
      (hseq : collaborators.latestSeq.run between = (.error fault, after)) :
      Passage collaborators worker site input
        ⟨worker.measured snapshot input.times, after, input.times.decidedAt,
          [.latest (.ok snapshot), .latestSeq (.error fault)],
          .ok (.error (.source fault))⟩
  | discarded {snapshot : Snapshot} {assignment : Assignment}
      {newer : SnapshotSeq} {between after : σ}
      (hread : collaborators.latest.run site = (.ok snapshot, between))
      (hfresh : worker.checkpoint.isProcessed snapshot.seq = false)
      (hdecide : input.decide worker.engine snapshot = .ok assignment)
      (hseq : collaborators.latestSeq.run between = (.ok (some newer), after))
      (hnewer : snapshot.seq.value < newer.value) :
      Passage collaborators worker site input
        ⟨worker.measured snapshot input.times, after, input.times.decidedAt,
          [.latest (.ok snapshot), .latestSeq (.ok (some newer))],
          .ok (.ok (.discarded snapshot.seq newer))⟩
  /-- The sink refuses the assignment. -/
  | refused {snapshot : Snapshot} {assignment : Assignment}
      {newest : Option SnapshotSeq} {fault : CommitFault}
      {afterRead afterSeq after : σ}
      (hread : collaborators.latest.run site = (.ok snapshot, afterRead))
      (hfresh : worker.checkpoint.isProcessed snapshot.seq = false)
      (hdecide : input.decide worker.engine snapshot = .ok assignment)
      (hseq : collaborators.latestSeq.run afterRead = (.ok newest, afterSeq))
      (hnewest : ∀ newer ∈ newest, newer.value ≤ snapshot.seq.value)
      (hcommit : (collaborators.commit assignment).run afterSeq =
        (.error fault, after)) :
      Passage collaborators worker site input
        ⟨worker.measured snapshot input.times, after, input.times.decidedAt,
          [.latest (.ok snapshot), .latestSeq (.ok newest),
            .commit assignment (.error fault)], .ok (.error (.sink fault))⟩
  /-- The assignment is committed, and then its intents are dispatched. -/
  | committed {snapshot : Snapshot} {assignment : Assignment}
      {newest : Option SnapshotSeq} {metrics : TickMetrics} {delivered : Bool}
      {afterRead afterSeq afterCommit after : σ}
      (hread : collaborators.latest.run site = (.ok snapshot, afterRead))
      (hfresh : worker.checkpoint.isProcessed snapshot.seq = false)
      (hdecide : input.decide worker.engine snapshot = .ok assignment)
      (hseq : collaborators.latestSeq.run afterRead = (.ok newest, afterSeq))
      (hnewest : ∀ newer ∈ newest, newer.value ≤ snapshot.seq.value)
      (hcommit : (collaborators.commit assignment).run afterSeq =
        (.ok (), afterCommit))
      (hdispatch : (collaborators.dispatch assignment.intents).run afterCommit =
        (delivered, after)) :
      Passage collaborators worker site input
        ⟨(worker.measured snapshot input.times).advanced snapshot.seq, after,
          input.times.decidedAt,
          [.latest (.ok snapshot), .latestSeq (.ok newest),
            .commit assignment (.ok ()),
            .dispatch assignment.intents delivered],
          .ok (.ok (.committed snapshot.seq metrics))⟩

namespace Executor

private theorem awaitAll_detached (executor : Executor (Except WorkerFault))
    (count : Nat) :
    executor.detached.awaitAll count =
      (ExceptT.mk (pure (executor.awaitAll count)) : Recorded σ Unit) := by
  induction count with
  | zero => rfl
  | succ others ih =>
    simp only [awaitAll, ih]
    cases hnext : executor.next others with
    | error fault => simp [detached, hnext]; rfl
    | ok finished => simp [detached, hnext]; rfl

theorem awaitTick_detached (executor : Executor (Except WorkerFault))
    (snapshot : Snapshot) (config : EngineConfig) :
    executor.detached.awaitTick snapshot config =
      (ExceptT.mk
        (pure (executor.awaitTick snapshot config)) : Recorded σ Unit) := by
  simp only [awaitTick, awaitAll_detached]
  cases hprepared : executor.prepared with
  | error fault => simp [detached, hprepared]; rfl
  | ok _ => simp [detached, hprepared]; rfl

end Executor

/-- Workers that leave the collaborators alone decide as they do by
themselves. -/
theorem Tick.runTick_detached (executor : Executor (Except WorkerFault))
    (snapshot : Snapshot) (config : EngineConfig) (decidedAt : Instant) :
    Tick.runTick executor.detached snapshot config decidedAt =
      (ExceptT.mk
        (pure (Tick.runTick executor snapshot config decidedAt)) : Recorded σ
          TickOutput) := by
  rw [runTick_eq, runTick_eq, Executor.awaitTick_detached]
  cases executor.awaitTick snapshot config with
  | error fault => rfl
  | ok _ => rfl

/-- Workers that finish come to what one group after the other would have come
to. -/
theorem TickInput.decide_eq_ok {input : TickInput} {engine : EngineConfig}
    {snapshot : Snapshot} {assignment : Assignment}
    (hdecide : input.decide engine snapshot = .ok assignment) :
    assignment =
      (Tick.schedule snapshot engine input.times.decidedAt).assignment := by
  rw [decide, Tick.runTick_eq] at hdecide
  cases hawait : input.executor.awaitTick snapshot engine with
  | error fault =>
    rw [hawait] at hdecide
    cases hdecide
  | ok _ =>
    rw [hawait] at hdecide
    cases hdecide
    rfl

theorem Recorded.run_ask_bind {α β : Type} (question : StateM σ α)
    (call : α → Call) (use : α → Recorded σ β) {site after : σ} {answer : α}
    {calls : List Call} (hanswer : question.run site = (answer, after)) :
    (Recorded.ask question call >>= use).run.run (site, calls) =
      (use answer).run.run (after, calls ++ [call answer]) := by
  have hask : (Recorded.ask question call).run.run (site, calls) =
      (.ok answer, after, calls ++ [call answer]) := by
    change (Except.ok (question.run site).1, (question.run site).2,
      calls ++ [call (question.run site).1]) = _
    rw [hanswer]
  rw [ExceptT.run_bind, StateT.run_bind, hask]
  rfl

theorem Recorded.run_mk_bind {α β : Type} (result : Except WorkerFault α)
    (use : α → Recorded σ β) (state : σ × List Call) :
    ((ExceptT.mk (pure result) : Recorded σ α) >>= use).run.run state =
      match result with
      | .ok value => (use value).run.run state
      | .error fault => (.error fault, state) := by
  cases result <;> rfl

namespace Worker

section Passages

variable (collaborators : Collaborators (StateM σ)) (worker : Worker) (site : σ)
  (input : TickInput)
variable {snapshot : Snapshot} {afterRead : σ}
variable (hread : collaborators.latest.run site = (.ok snapshot, afterRead))
variable (hfresh : worker.checkpoint.isProcessed snapshot.seq = false)

include hread hfresh

/-- The last stage of a tick: the commit, and the intents. -/
theorem commit_passage {assignment : Assignment} {newest : Option SnapshotSeq}
    {afterSeq : σ}
    (hdecide : input.decide worker.engine snapshot = .ok assignment)
    (hseq : collaborators.latestSeq.run afterRead = (.ok newest, afterSeq))
    (hnewest : ∀ newer ∈ newest, newer.value ≤ snapshot.seq.value)
    {metrics : TickMetrics} (hmetrics : metrics.seq = snapshot.seq) :
    Passage collaborators worker site input
      (worker.conclude input
        ((commit collaborators.recorded (worker.measured snapshot input.times)
            assignment metrics).run.run
          (afterSeq, [.latest (.ok snapshot), .latestSeq (.ok newest)]))) := by
  simp only [commit, Collaborators.recorded]
  obtain ⟨answer, afterCommit, hcommit⟩ :
      ∃ answer after,
        (collaborators.commit assignment).run afterSeq = (answer, after) :=
    ⟨_, _, rfl⟩
  rw [Recorded.run_ask_bind _ _ _ hcommit]
  cases answer with
  | error fault => exact .refused hread hfresh hdecide hseq hnewest hcommit
  | ok _ =>
    obtain ⟨delivered, after, hdispatch⟩ :
        ∃ delivered after,
          (collaborators.dispatch assignment.intents).run afterCommit =
            (delivered, after) :=
      ⟨_, _, rfl⟩
    simp only []
    rw [Recorded.run_ask_bind _ _ _ hdispatch, hmetrics]
    exact .committed hread hfresh hdecide hseq hnewest hcommit hdispatch

/-- A tick on a snapshot that has not been committed before. -/
theorem decide_passage :
    Passage collaborators worker site input
      (worker.conclude input
        ((decide input.executor.detached collaborators.recorded worker snapshot
            input.times).run.run (afterRead, [.latest (.ok snapshot)]))) := by
  rw [decide, Tick.runTick_detached, Recorded.run_mk_bind]
  cases houtput : Tick.runTick input.executor snapshot worker.engine
    input.times.decidedAt with
  | error fault =>
    have hdecide : input.decide worker.engine snapshot = .error fault := by
      simp [TickInput.decide, houtput]
    exact .lost hread hfresh hdecide
  | ok output =>
    have hdecide :
        input.decide worker.engine snapshot = .ok output.assignment := by
      simp [TickInput.decide, houtput]
    have hdecidedAt : output.assignment.decidedAt = input.times.decidedAt := by
      rw [TickInput.decide_eq_ok hdecide]
      rfl
    obtain ⟨answer, afterSeq, hseq⟩ : ∃ answer after,
      collaborators.latestSeq.run afterRead = (answer, after) := ⟨_, _, rfl⟩
    simp only [hdecidedAt]
    rw [Collaborators.recorded, Recorded.run_ask_bind _ _ _ hseq]
    have hmetrics :
        (worker.health.record snapshot.seq snapshot.takenAt
            input.times.decidedAt input.times.matching).2.seq = snapshot.seq :=
      rfl
    rcases answer with fault | _ | newer
    · exact .unsure hread hfresh hdecide hseq
    · exact commit_passage collaborators worker site input hread hfresh hdecide
        hseq nofun hmetrics
    · by_cases hnewer : snapshot.seq.value < newer.value
      · simp only [hnewer]
        exact .discarded hread hfresh hdecide hseq hnewer
      · simp only [hnewer]
        apply commit_passage collaborators worker site input hread hfresh
          hdecide hseq _ hmetrics
        intro other hother
        cases hother
        exact UInt64.not_lt.mp hnewer

end Passages

/-- Every tick takes one of the ways. -/
theorem attempt_passage (collaborators : Collaborators (StateM σ))
    (worker : Worker) (site : σ) (input : TickInput) :
    Passage collaborators worker site input
      (worker.attempt collaborators site input) := by
  obtain ⟨answer, afterRead, hread⟩ : ∃ answer after,
    collaborators.latest.run site = (answer, after) := ⟨_, _, rfl⟩
  simp only [attempt, tickOn]
  have hasked :
      collaborators.recorded.latest = .ask collaborators.latest .latest :=
    rfl
  rw [hasked, Recorded.run_ask_bind _ _ _ hread]
  cases answer with
  | error fault =>
    cases htransient : fault.isTransient with
    | true =>
      simp only [htransient]
      exact .idle hread htransient
    | false =>
      simp only [htransient]
      exact .unreadable hread htransient
  | ok snapshot =>
    cases hprocessed : worker.checkpoint.isProcessed snapshot.seq with
    | true =>
      simp only [hprocessed]
      exact .skipped hread hprocessed
    | false =>
      simp only [hprocessed]
      exact decide_passage collaborators worker site input hread hprocessed

end Worker

end ClusterTick
