import ClusterTick.Proofs.Tick.PreemptionSafety
import ClusterTick.Proofs.Worker.Ledger

/-!
# Ticks that come to nothing

A tick that does not commit leaves the ledger and the checkpoint as they are, so
the snapshot that it read is still to be done.  As long as no snapshot of its
number or above is committed, a later tick that reads it finds nothing changed:
it commits what the failed tick would have committed, up to the time of
decision, unless something goes wrong again.
-/

namespace ClusterTick

variable {σ : Type}

namespace Episode

/-- The snapshot that a tick has read. -/
def read? (episode : Episode) : Option Snapshot :=
  match episode.calls.head? with
  | some (.latest (.ok snapshot)) => some snapshot
  | _ => none

/-- Whether a tick failed, or discarded what it decided. -/
def isFailure (episode : Episode) : Bool :=
  match episode.result with
  | .error _ => true
  | .ok (.error _) => true
  | .ok (.ok (.discarded ..)) => true
  | _ => false

end Episode

/-- Nothing keeps a tick that has read a snapshot from committing it: the
workers finish, the source then knows of nothing newer, and the sink accepts. -/
def TickInput.IsClear (input : TickInput)
    (collaborators : Collaborators (StateM σ)) (engine : EngineConfig)
    (snapshot : Snapshot) (site : σ) : Prop :=
  ∃ (assignment : Assignment) (newest : Option SnapshotSeq) (between after : σ),
    input.decide engine snapshot = .ok assignment ∧
    collaborators.latestSeq.run site = (.ok newest, between) ∧
    (∀ newer ∈ newest, newer.value ≤ snapshot.seq.value) ∧
    (collaborators.commit assignment).run between = (.ok (), after)

/-- What can be relied on after a tick, in whatever state the worker and its
surroundings were. -/
structure Attempt.Reliable (attempt : Attempt σ)
    (collaborators : Collaborators (StateM σ)) (ledger : σ → Ledger)
    (worker : Worker) (site : σ) (input : TickInput) : Prop where
  /-- A tick that does not commit changes nothing that outlives it. -/
  quiet : attempt.episode.isCommit = false →
    ledger attempt.site = ledger site ∧
      attempt.worker.checkpoint = worker.checkpoint
  /-- A tick is skipped exactly if the snapshot that it reads is not above the
  checkpoint. -/
  skipped : ∀ seq,
    attempt.episode.result = .ok (.ok (.skipped seq)) ↔
      ∃ (snapshot : Snapshot) (after : σ),
        collaborators.latest.run site = (.ok snapshot, after) ∧
        snapshot.seq = seq ∧
        ∃ last ∈ worker.checkpoint.last, seq.value ≤ last.value
  /-- After a failure on a snapshot and any further ticks, none of which commits
  a number as high, a tick that reads the snapshot again commits it exactly if
  nothing keeps it from doing so, and with the digest of the failure. -/
  retried :
    ∀ (snapshot : Snapshot) (inputs : List
        TickInput) (again : TickInput) (after : σ),
      attempt.episode.read? = some snapshot → attempt.episode.isFailure →
      let meanwhile :=
        Service.run collaborators ⟨attempt.worker, attempt.site, []⟩ inputs
      (∀ assignment ∈ meanwhile.committed,
          assignment.seq.value < snapshot.seq.value) →
        collaborators.latest.run meanwhile.site = (.ok snapshot, after) →
        let retry := meanwhile.worker.attempt collaborators meanwhile.site again
        (retry.episode.isCommit ↔
            again.IsClear collaborators worker.engine snapshot after) ∧
          (retry.episode.isCommit →
            ∃ assignment, retry.episode.committed = [assignment] ∧
              assignment.seq = snapshot.seq ∧
              ∀ failed, input.decide worker.engine snapshot = .ok failed →
                assignment.digest = failed.digest)

/-- The digest of a decision does not depend on when and by which workers it is
made. -/
theorem TickInput.digest_eq {first second : TickInput} {engine : EngineConfig}
    {snapshot : Snapshot} {left right : Assignment}
    (hleft : first.decide engine snapshot = .ok left)
    (hright : second.decide engine snapshot = .ok right) :
    left.digest = right.digest := by
  have htimeless (assignment : Assignment) (decidedAt : Instant) :
    { assignment with decidedAt }.digest = assignment.digest := rfl
  rw [decide_eq_ok hleft, decide_eq_ok hright,
    Tick.schedule_decidedAt snapshot engine second.times.decidedAt
      first.times.decidedAt]
  exact htimeless _ _

namespace Passage

variable {collaborators : Collaborators (StateM σ)} {worker : Worker} {site : σ}
variable {input : TickInput} {attempt : Attempt σ}

private theorem checkpoint_of_not_isCommit
    (hpassage : Passage collaborators worker site input attempt)
    (hquiet : attempt.episode.isCommit = false) :
    attempt.worker.checkpoint = worker.checkpoint := by
  cases hpassage with
  | committed => cases hquiet
  | _ => rfl

private theorem skipped_iff
    (hpassage : Passage collaborators worker site input attempt)
    (seq : SnapshotSeq) :
    attempt.episode.result = .ok (.ok (.skipped seq)) ↔
      ∃ (snapshot : Snapshot) (after : σ),
        collaborators.latest.run site = (.ok snapshot, after) ∧
        snapshot.seq = seq ∧ worker.checkpoint.isProcessed seq := by
  constructor
  · intro hskipped
    cases hpassage with
    | skipped hread hprocessed =>
      cases hskipped
      exact ⟨_, _, hread, rfl, hprocessed⟩
    | _ => cases hskipped
  · rintro ⟨snapshot, after, hsame, rfl, hprocessed⟩
    cases hpassage with
    | skipped hread =>
      cases hread.symm.trans hsame
      rfl
    | idle hread | unreadable hread => cases hread.symm.trans hsame
    | lost hread hfresh | unsure hread hfresh | discarded hread hfresh
    | refused hread hfresh | committed hread hfresh =>
      cases hread.symm.trans hsame
      rw [hfresh] at hprocessed
      cases hprocessed

/-- A failure on a snapshot leaves it to be done. -/
theorem fresh_of_isFailure
    (hpassage : Passage collaborators worker site input attempt)
    {snapshot : Snapshot} (hread : attempt.episode.read? = some snapshot)
    (hfailure : attempt.episode.isFailure) :
    attempt.worker.checkpoint.isProcessed snapshot.seq = false := by
  cases hpassage with
  | idle | unreadable => cases hread
  | skipped | committed => cases hfailure
  | lost _ hfresh | unsure _ hfresh | discarded _ hfresh | refused _ hfresh =>
    cases hread
    exact hfresh

section Read

variable {snapshot : Snapshot} {afterRead : σ}
variable (hpassage : Passage collaborators worker site input attempt)
variable (hsame : collaborators.latest.run site = (.ok snapshot, afterRead))

include hpassage hsame

/-- A snapshot that is to be done is committed exactly if nothing keeps the tick
from it. -/
theorem isCommit_iff
    (hnew : worker.checkpoint.isProcessed snapshot.seq = false) :
    attempt.episode.isCommit ↔
      input.IsClear collaborators worker.engine snapshot afterRead := by
  constructor
  · intro hresult
    cases hpassage with
    | committed hread _ hdecide hseq hnewest hcommit =>
      cases hread.symm.trans hsame
      exact ⟨_, _, _, _, hdecide, hseq, hnewest, hcommit⟩
    | _ => cases hresult
  · rintro ⟨assignment, newest, between, after, hdecided, hknown, hbelow,
      haccepted⟩
    cases hpassage with
    | committed => rfl
    | idle hread | unreadable hread => cases hread.symm.trans hsame
    | skipped hread hprocessed =>
      cases hread.symm.trans hsame
      rw [hnew] at hprocessed
      cases hprocessed
    | lost hread _ hdecide =>
      cases hread.symm.trans hsame
      cases hdecide.symm.trans hdecided
    | unsure hread _ _ hseq =>
      cases hread.symm.trans hsame
      cases hseq.symm.trans hknown
    | discarded hread _ _ hseq hnewer =>
      cases hread.symm.trans hsame
      cases hseq.symm.trans hknown
      exact absurd hnewer (UInt64.not_lt.mpr (hbelow _ rfl))
    | refused hread _ hdecide hseq _ hcommit =>
      cases hread.symm.trans hsame
      cases hdecide.symm.trans hdecided
      cases hseq.symm.trans hknown
      cases hcommit.symm.trans haccepted

/-- What is committed is what the workers make of the snapshot. -/
theorem committed_of_isCommit (hresult : attempt.episode.isCommit) :
    ∃ assignment, attempt.episode.committed = [assignment] ∧
      input.decide worker.engine snapshot = .ok assignment := by
  cases hpassage with
  | committed hread _ hdecide =>
    cases hread.symm.trans hsame
    exact ⟨_, rfl, hdecide⟩
  | _ => cases hresult

end Read

end Passage

namespace Service

variable {collaborators : Collaborators (StateM σ)}

private theorem engine_run (service : Service σ) (inputs : List TickInput) :
    (service.run collaborators inputs).worker.engine =
      service.worker.engine := by
  induction inputs using List.reverseRecOn with
  | nil => rfl
  | append_singleton front input ih =>
    rw [run_concat]
    exact ((service.run collaborators front).passage_tick collaborators
        input).engine_eq.trans ih

/-- A snapshot stays to be done while no number as high is committed. -/
theorem fresh_run {service : Service σ} {seq : SnapshotSeq}
    (hfresh : service.worker.checkpoint.isProcessed seq = false)
    (inputs : List TickInput)
    (hbelow : ∀ assignment ∈ (service.run collaborators inputs).committed,
      assignment.seq.value < seq.value) :
    (service.run collaborators inputs).worker.checkpoint.isProcessed seq =
      false := by
  induction inputs using List.reverseRecOn with
  | nil => exact hfresh
  | append_singleton front input ih =>
    rw [run_concat] at hbelow ⊢
    rw [committed_tick] at hbelow
    have hbefore :=
      ih fun assignment hmem => hbelow assignment (List.mem_append_left _ hmem)
    have hpassage :=
      (service.run collaborators front).passage_tick collaborators input
    rcases hpassage.commits_or_isSilent with ⟨assignment, hcommits⟩ | hsilent
    · have hassignment : assignment.seq.value < seq.value := by
        apply hbelow
        rw [hcommits.committed]
        exact List.mem_append_right _ (List.mem_singleton_self assignment)
      rw [Checkpoint.isProcessed_eq_false_iff, tick, hcommits.checkpoint]
      intro last hlast
      cases hlast
      exact hassignment
    · rw [tick, hsilent.checkpoint]
      exact hbefore

end Service

/-- A tick can be relied on whatever the worker and its surroundings are
like. -/
theorem Worker.attempt_reliable {collaborators : Collaborators (StateM σ)}
    {ledger : σ → Ledger} (hspares : collaborators.Spares ledger)
    (worker : Worker) (site : σ) (input : TickInput) :
    (worker.attempt collaborators site input).Reliable collaborators ledger
      worker site input := by
  have hpassage := worker.attempt_passage collaborators site input
  constructor
  · intro hquiet
    exact ⟨hpassage.ledger_of_not_isCommit hspares hquiet,
      hpassage.checkpoint_of_not_isCommit hquiet⟩
  · intro seq
    rw [hpassage.skipped_iff]
    simp only [Checkpoint.isProcessed_eq_true_iff]
  · intro snapshot inputs again after hread hfailure meanwhile hbelow hagain
      retry
    have hfresh :=
      Service.fresh_run (hpassage.fresh_of_isFailure hread hfailure) inputs
        hbelow
    have hengine : meanwhile.worker.engine = worker.engine :=
      (Service.engine_run _ inputs).trans hpassage.engine_eq
    have hretry :=
      meanwhile.worker.attempt_passage collaborators meanwhile.site again
    constructor
    · rw [← hengine]
      exact hretry.isCommit_iff hagain hfresh
    · intro hresult
      obtain ⟨assignment, hcommitted, hdecide⟩ :=
        hretry.committed_of_isCommit hagain hresult
      rw [hengine] at hdecide
      refine ⟨assignment, hcommitted, ?_, ?_⟩
      · rw [TickInput.decide_eq_ok hdecide]
        rfl
      · exact fun failed hfailed => TickInput.digest_eq hdecide hfailed

namespace BusyCluster

/-- A cluster that publishes a snapshot as soon as it is asked for one, and
refuses one commit. -/
def refusing (snapshot : Snapshot) : BusyCluster where
  cluster := {}
  pending := [[.publish snapshot, .refuseCommits 1]]

/-- A tick whose commit is refused. -/
def refusal : Attempt BusyCluster :=
  Worker.attempt collaborators { engine := {} } (refusing Tick.urgentTask)
    ⟨default, .inOrder⟩

/-- The tick that follows it. -/
def afterRefusal : Attempt BusyCluster :=
  refusal.worker.attempt collaborators refusal.site ⟨default, .inOrder⟩

/-- The tick after a refused commit makes up for it. -/
theorem refused_then_committed :
    collaborators.Spares ledger ∧ refusal.episode.isFailure ∧
      refusal.site.cluster.committed = [] ∧
      refusal.worker.checkpoint.last = none ∧
      ∃ refused assignment,
        (⟨default, .inOrder⟩ : TickInput).decide {} Tick.urgentTask =
          .ok refused ∧
        afterRefusal.episode.committed = [assignment] ∧
        assignment.digest = refused.digest := by
  have hreliable := Worker.attempt_reliable keeps.toSpares { engine := {} }
    (refusing Tick.urgentTask) ⟨default, .inOrder⟩
  have hquiet : refusal.episode.isCommit = false := by decide +kernel
  obtain ⟨hledger, hcheckpoint⟩ := hreliable.quiet hquiet
  have hread : refusal.episode.read? = some Tick.urgentTask := by decide +kernel
  have hfailure : refusal.episode.isFailure := by decide +kernel
  have hsite : refusal.site = ⟨{ snapshot := some Tick.urgentTask }, []⟩ := by
    decide +kernel
  have hagain : collaborators.latest.run refusal.site =
      (.ok Tick.urgentTask, refusal.site) := by
    rw [hsite]
    rfl
  have hbelow : ∀ assignment ∈ (Service.run collaborators
      ⟨refusal.worker, refusal.site, []⟩ []).committed,
        assignment.seq.value < Tick.urgentTask.seq.value := by
    simp [Service.run, Service.committed]
  have hretried :=
    hreliable.retried Tick.urgentTask [] ⟨default, .inOrder⟩ refusal.site hread
      hfailure hbelow hagain
  have hresult : afterRefusal.episode.isCommit := by decide +kernel
  obtain ⟨assignment, hcommitted, -, hdigest⟩ := hretried.2 hresult
  have hrefused : (⟨default, .inOrder⟩ : TickInput).decide {} Tick.urgentTask =
      .ok (Tick.schedule Tick.urgentTask {} default).assignment := by
    rw [TickInput.decide, Tick.runTick_inOrder]
    rfl
  exact ⟨keeps.toSpares, hfailure, congrArg Ledger.committed hledger,
    congrArg Checkpoint.last hcheckpoint, _, assignment, hrefused, hcommitted,
    hdigest _ hrefused⟩

end BusyCluster

end ClusterTick
