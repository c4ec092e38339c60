import ClusterTick.Proofs.Worker.Attempt

/-!
# Runs of a worker

A service is a worker in its surroundings with the record of its ticks.  In
every run the committed numbers grow, the checkpoint is the last of them, and
what leaves the worker is each committed assignment and then its intents, once.
-/

namespace ClusterTick

variable {σ : Type}

/-- What a call may leave behind outside of the worker. -/
inductive Effect where
  | stored (assignment : Assignment)
  | announced (batch : IntentBatch)
  deriving DecidableEq

namespace Call

/-- The assignment that a sink has accepted. -/
def accepted? : Call → Option Assignment
  | commit assignment (.ok _) => some assignment
  | _ => none

/-- A dispatch has an effect whether it succeeds or not. -/
def effect? : Call → Option Effect
  | commit assignment (.ok _) => some (.stored assignment)
  | dispatch batch _ => some (.announced batch)
  | _ => none

end Call

namespace Episode

def committed (episode : Episode) : List Assignment :=
  episode.calls.filterMap Call.accepted?

def effects (episode : Episode) : List Effect :=
  episode.calls.filterMap Call.effect?

/-- A tick that commits what is decided on the snapshot that it reads, being
told of no newer one, and then dispatches the intents. -/
def Commits (episode : Episode) (engine : EngineConfig)
    (assignment : Assignment) : Prop :=
  ∃ (snapshot : Snapshot) (newest : Option SnapshotSeq) (delivered : Bool),
    episode.calls =
      [.latest (.ok snapshot), .latestSeq (.ok newest),
        .commit assignment (.ok ()), .dispatch assignment.intents delivered] ∧
    assignment = (Tick.schedule snapshot engine episode.decidedAt).assignment ∧
    ∀ newer ∈ newest, newer.value ≤ assignment.seq.value

end Episode

/-- A tick that commits an assignment. -/
structure Attempt.Commits (attempt : Attempt σ) (worker : Worker)
    (assignment : Assignment) : Prop where
  committed : attempt.episode.committed = [assignment]
  effects : attempt.episode.effects =
    [.stored assignment, .announced assignment.intents]
  decided : attempt.episode.Commits worker.engine assignment
  fresh : worker.checkpoint.isProcessed assignment.seq = false
  checkpoint : attempt.worker.checkpoint.last = some assignment.seq

/-- A tick that commits nothing. -/
structure Attempt.IsSilent (attempt : Attempt σ) (worker : Worker) : Prop where
  committed : attempt.episode.committed = []
  effects : attempt.episode.effects = []
  checkpoint : attempt.worker.checkpoint = worker.checkpoint

/-- A worker in its surroundings, and its ticks so far. -/
structure Service (σ : Type) where
  worker : Worker
  site : σ
  episodes : List Episode := []

namespace Service

/-- A new worker, with settings of its own. -/
def opening (engine : EngineConfig) (interval : Span) (health : TickHealth)
    (site : σ) : Service σ where
  worker := { engine, interval, health }
  site

def tick (collaborators : Collaborators (StateM σ)) (service : Service σ)
    (input : TickInput) : Service σ :=
  let attempt := service.worker.attempt collaborators service.site input
  ⟨attempt.worker, attempt.site, service.episodes ++ [attempt.episode]⟩

/-- One tick after the other. -/
def run (collaborators : Collaborators (StateM σ)) (service : Service σ)
    (inputs : List TickInput) : Service σ :=
  inputs.foldl (tick collaborators) service

/-- The assignments that the sink has accepted, in order. -/
def committed (service : Service σ) : List Assignment :=
  service.episodes.flatMap Episode.committed

def effects (service : Service σ) : List Effect :=
  service.episodes.flatMap Episode.effects

/-- What holds of a worker with the given settings at any time. -/
structure Disciplined (service : Service σ) (engine : EngineConfig) : Prop where
  settings : service.worker.engine = engine
  increasing : service.committed.Pairwise fun earlier later =>
    earlier.seq.value < later.seq.value
  checkpoint : service.worker.checkpoint.last =
    service.committed.getLast?.map Assignment.seq
  effects : service.effects = service.committed.flatMap fun assignment =>
    [.stored assignment, .announced assignment.intents]
  decided : ∀ episode ∈ service.episodes, ∀ assignment ∈ episode.committed,
    episode.Commits engine assignment

end Service

namespace Checkpoint

theorem isProcessed_eq_false_iff {checkpoint : Checkpoint} {seq : SnapshotSeq} :
    checkpoint.isProcessed seq = false ↔
      ∀ last ∈ checkpoint.last, last.value < seq.value := by
  rw [isProcessed]
  cases checkpoint.last with
  | none => simp
  | some last => simp [UInt64.not_le]

theorem isProcessed_eq_true_iff {checkpoint : Checkpoint} {seq : SnapshotSeq} :
    checkpoint.isProcessed seq ↔
      ∃ last ∈ checkpoint.last, seq.value ≤ last.value := by
  rw [isProcessed]
  cases checkpoint.last with
  | none => simp
  | some last => simp

private theorem last_advance {checkpoint : Checkpoint} {seq : SnapshotSeq}
    (hfresh : checkpoint.isProcessed seq = false) :
    (checkpoint.advance seq).last = some seq := by
  rw [advance, hfresh]
  rfl

end Checkpoint

namespace Passage

variable {collaborators : Collaborators (StateM σ)} {worker : Worker} {site : σ}
variable {input : TickInput} {attempt : Attempt σ}

theorem engine_eq (hpassage : Passage collaborators worker site input attempt) :
    attempt.worker.engine = worker.engine := by
  cases hpassage <;> rfl

/-- A tick commits as it should, or commits nothing. -/
theorem commits_or_isSilent
    (hpassage : Passage collaborators worker site input attempt) :
    (∃ assignment, attempt.Commits worker assignment) ∨
      attempt.IsSilent worker := by
  cases hpassage with
  | committed hread hfresh hdecide hseq hnewest =>
    obtain rfl := TickInput.decide_eq_ok hdecide
    exact Or.inl ⟨_, rfl, rfl, ⟨_, _, _, rfl, rfl, hnewest⟩, hfresh,
      Checkpoint.last_advance hfresh⟩
  | idle | unreadable | skipped | lost | unsure | discarded | refused =>
    exact Or.inr ⟨rfl, rfl, rfl⟩

end Passage

namespace Service

variable {service : Service σ} {engine : EngineConfig}

/-- A number that the checkpoint has not reached is above all committed ones. -/
theorem Disciplined.lt_of_fresh (hdisciplined : service.Disciplined engine)
    {seq : SnapshotSeq}
    (hfresh : service.worker.checkpoint.isProcessed seq = false) :
    ∀ assignment ∈ service.committed, assignment.seq.value < seq.value := by
  rw [Checkpoint.isProcessed_eq_false_iff, hdisciplined.checkpoint] at hfresh
  have hincreasing := hdisciplined.increasing
  rcases List.eq_nil_or_concat service.committed with
    hnone | ⟨front, last, hcommitted⟩
  · simp [hnone]
  · rw [hcommitted, List.concat_eq_append] at hfresh hincreasing ⊢
    have hlast : last.seq.value < seq.value := by simpa using hfresh
    intro assignment hassignment
    rcases List.mem_append.mp hassignment with hfront | hback
    · have hbelow :=
        (List.pairwise_append.mp hincreasing).2.2 assignment hfront last
          (List.mem_singleton_self last)
      exact UInt64.lt_trans hbelow hlast
    · rwa [List.mem_singleton.mp hback]

theorem passage_tick (collaborators : Collaborators (StateM σ))
    (service : Service σ) (input : TickInput) :
    Passage collaborators service.worker service.site input
      (service.worker.attempt collaborators service.site input) :=
  service.worker.attempt_passage collaborators service.site input

theorem run_concat (collaborators : Collaborators (StateM σ))
    (service : Service σ) (front : List TickInput) (input : TickInput) :
    service.run collaborators (front ++ [input]) =
      (service.run collaborators front).tick collaborators input := by
  rw [run, run, List.foldl_append]
  rfl

theorem committed_tick (collaborators : Collaborators (StateM σ))
    (service : Service σ) (input : TickInput) :
    (service.tick collaborators input).committed =
      service.committed ++
        (service.worker.attempt collaborators service.site
          input).episode.committed := by
  simp [tick, committed]

theorem effects_tick (collaborators : Collaborators (StateM σ))
    (service : Service σ) (input : TickInput) :
    (service.tick collaborators input).effects =
      service.effects ++
        (service.worker.attempt collaborators service.site
          input).episode.effects := by
  simp [tick, effects]

section Step

variable {collaborators : Collaborators (StateM σ)} {input : TickInput}
variable (hdisciplined : service.Disciplined engine)
variable (hsettings : (service.tick collaborators input).worker.engine = engine)

include hdisciplined hsettings

/-- A tick that commits a number above the checkpoint keeps a worker
disciplined. -/
theorem Disciplined.of_commits {assignment : Assignment}
    (hcommits : (service.worker.attempt collaborators service.site
        input).Commits service.worker assignment) :
    (service.tick collaborators input).Disciplined engine where
  settings := hsettings
  increasing := by
    rw [committed_tick, hcommits.committed, List.pairwise_append]
    refine ⟨hdisciplined.increasing, List.pairwise_singleton _ _, ?_⟩
    intro earlier hearlier later hlater
    rw [List.mem_singleton.mp hlater]
    exact hdisciplined.lt_of_fresh hcommits.fresh earlier hearlier
  checkpoint := by
    rw [committed_tick, hcommits.committed, List.getLast?_concat]
    exact hcommits.checkpoint
  effects := by
    rw [effects_tick, committed_tick, hcommits.committed, hcommits.effects,
      List.flatMap_append, hdisciplined.effects]
    rfl
  decided := by
    have hdecided := hcommits.decided
    rw [hdisciplined.settings] at hdecided
    rw [tick, List.forall_mem_append, List.forall_mem_singleton,
      hcommits.committed, List.forall_mem_singleton]
    exact ⟨hdisciplined.decided, hdecided⟩

/-- So does a tick that commits nothing. -/
theorem Disciplined.of_isSilent
    (hsilent : (service.worker.attempt collaborators service.site
        input).IsSilent service.worker) :
    (service.tick collaborators input).Disciplined engine where
  settings := hsettings
  increasing := by
    rw [committed_tick, hsilent.committed, List.append_nil]
    exact hdisciplined.increasing
  checkpoint := by
    rw [committed_tick, hsilent.committed, List.append_nil,
      ← hdisciplined.checkpoint]
    exact congrArg Checkpoint.last hsilent.checkpoint
  effects := by
    rw [effects_tick, committed_tick, hsilent.committed, hsilent.effects,
      List.append_nil, List.append_nil]
    exact hdisciplined.effects
  decided := by
    rw [tick, List.forall_mem_append, List.forall_mem_singleton,
      hsilent.committed]
    exact ⟨hdisciplined.decided, nofun⟩

end Step

/-- One more tick keeps a worker disciplined. -/
theorem disciplined_tick (collaborators : Collaborators (StateM σ))
    (hdisciplined : service.Disciplined engine) (input : TickInput) :
    (service.tick collaborators input).Disciplined engine := by
  have hpassage := service.passage_tick collaborators input
  have hsettings : (service.tick collaborators input).worker.engine = engine :=
    hpassage.engine_eq.trans hdisciplined.settings
  rcases hpassage.commits_or_isSilent with ⟨assignment, hcommits⟩ | hsilent
  · exact hdisciplined.of_commits hsettings hcommits
  · exact hdisciplined.of_isSilent hsettings hsilent

theorem disciplined_opening (engine : EngineConfig) (interval : Span)
    (health : TickHealth) (site : σ) :
    (opening engine interval health site).Disciplined engine where
  settings := rfl
  increasing := List.Pairwise.nil
  checkpoint := rfl
  effects := rfl
  decided := nofun

theorem Disciplined.run (hdisciplined : service.Disciplined engine)
    (collaborators : Collaborators (StateM σ)) (inputs : List TickInput) :
    (service.run collaborators inputs).Disciplined engine := by
  induction inputs using List.reverseRecOn with
  | nil => exact hdisciplined
  | append_singleton front input ih =>
    rw [run_concat]
    exact disciplined_tick collaborators ih input

/-- A new worker is disciplined in every run, whatever its collaborators do. -/
theorem run_disciplined (collaborators : Collaborators (StateM σ))
    (engine : EngineConfig) (interval : Span) (health : TickHealth) (site : σ)
    (inputs : List TickInput) :
    ((opening engine interval health site).run collaborators inputs).Disciplined
      engine :=
  (disciplined_opening engine interval health site).run collaborators inputs

end Service

end ClusterTick
