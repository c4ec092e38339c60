import ClusterTick.Proofs.Worker.Service
import ClusterTick.Worker.Memory

/-!
# What collaborators keep

The ledger of a site is what its sink stores and what its dispatcher has
delivered.  A worker changes it by commits and dispatches alone, so the ledger
can be read off the record of the ticks.  Collaborators in memory keep such a
ledger, also while they are disturbed between any two questions.
-/

namespace ClusterTick

variable {σ : Type}

/-- What is stored and delivered for good. -/
structure Ledger where
  committed : List Assignment := []
  batches : List IntentBatch := []

namespace Collaborators

/-- Neither a question nor a refused commit changes the ledger. -/
structure Spares (collaborators : Collaborators (StateM σ))
    (ledger : σ → Ledger) : Prop where
  latest : ∀ {site answer after},
    collaborators.latest.run site = (answer, after) → ledger after = ledger site
  latestSeq : ∀ {site answer after},
    collaborators.latestSeq.run site = (answer, after) →
    ledger after = ledger site
  refused : ∀ {assignment site fault after},
    (collaborators.commit assignment).run site = (.error fault, after) →
      ledger after = ledger site

/-- Moreover the ledger grows by what is accepted and what is delivered. -/
structure Keeps (collaborators : Collaborators (StateM σ))
    (ledger : σ → Ledger) : Prop
    extends collaborators.Spares ledger where
  accepted : ∀ {assignment site after},
    (collaborators.commit assignment).run site = (.ok (), after) →
      ledger after =
        ⟨(ledger site).committed ++ [assignment], (ledger site).batches⟩
  dispatched : ∀ {batch site delivered after},
    (collaborators.dispatch batch).run site = (delivered, after) →
    ledger after =
      ⟨(ledger site).committed,
        (ledger site).batches ++ if delivered then [batch] else []⟩

end Collaborators

def Call.delivered? : Call → Option IntentBatch
  | dispatch batch true => some batch
  | _ => none

def Episode.delivered (episode : Episode) : List IntentBatch :=
  episode.calls.filterMap Call.delivered?

def Service.delivered (service : Service σ) : List IntentBatch :=
  service.episodes.flatMap Episode.delivered

namespace Passage

variable {collaborators : Collaborators (StateM σ)} {ledger : σ → Ledger}
  {worker : Worker}
variable {site : σ} {input : TickInput} {attempt : Attempt σ}

/-- A tick that does not commit leaves the ledger as it is. -/
theorem ledger_of_not_isCommit (hspares : collaborators.Spares ledger)
    (hpassage : Passage collaborators worker site input attempt)
    (hquiet : attempt.episode.isCommit = false) :
    ledger attempt.site = ledger site := by
  cases hpassage with
  | idle hread | unreadable hread | skipped hread | lost hread =>
    exact hspares.latest hread
  | unsure hread _ _ hseq | discarded hread _ _ hseq =>
    exact (hspares.latestSeq hseq).trans (hspares.latest hread)
  | refused hread _ _ hseq _ hcommit =>
    exact ((hspares.refused hcommit).trans (hspares.latestSeq hseq)).trans
      (hspares.latest hread)
  | committed => cases hquiet

/-- The ledger after a tick is the one before it with what the calls add. -/
theorem ledger_eq (hkeeps : collaborators.Keeps ledger)
    (hpassage : Passage collaborators worker site input attempt) :
    ledger attempt.site = ⟨(ledger site).committed ++ attempt.episode.committed,
      (ledger site).batches ++ attempt.episode.delivered⟩ := by
  cases hresult : attempt.episode.isCommit with
  | false =>
    obtain ⟨hcommitted, hdelivered⟩ : attempt.episode.committed = [] ∧
        attempt.episode.delivered = [] := by
      cases hpassage with
      | committed => cases hresult
      | _ => exact ⟨rfl, rfl⟩
    rw [hpassage.ledger_of_not_isCommit hkeeps.toSpares hresult, hcommitted,
      hdelivered, List.append_nil, List.append_nil]
  | true =>
    cases hpassage with
    | @committed _ _ _ _ delivered _ _ _ _ hread _ _ hseq _ hcommit hdispatch =>
      rw [hkeeps.dispatched hdispatch, hkeeps.accepted hcommit,
        hkeeps.latestSeq hseq, hkeeps.latest hread]
      cases delivered <;> rfl
    | _ => cases hresult

end Passage

namespace Service

variable {collaborators : Collaborators (StateM σ)} {ledger : σ → Ledger}

theorem delivered_tick (service : Service σ) (input : TickInput) :
    (service.tick collaborators input).delivered =
      service.delivered ++
        (service.worker.attempt collaborators service.site
          input).episode.delivered := by
  simp [tick, delivered]

theorem ledger_tick (hkeeps : collaborators.Keeps ledger) (service : Service σ)
    (input : TickInput) :
    ledger (service.tick collaborators input).site =
      ⟨(ledger service.site).committed ++
          (service.worker.attempt collaborators service.site
            input).episode.committed,
        (ledger service.site).batches ++
          (service.worker.attempt collaborators service.site
            input).episode.delivered⟩ :=
  (service.passage_tick collaborators input).ledger_eq hkeeps

/-- The ledger after a run is the one before it with what the record of the run
adds. -/
theorem ledger_run (hkeeps : collaborators.Keeps ledger) (worker : Worker)
    (site : σ) (inputs : List TickInput) :
    ledger (run collaborators ⟨worker, site, []⟩ inputs).site =
      ⟨(ledger site).committed ++
          (run collaborators ⟨worker, site, []⟩ inputs).committed,
        (ledger site).batches ++
          (run collaborators ⟨worker, site, []⟩ inputs).delivered⟩ := by
  induction inputs using List.reverseRecOn with
  | nil => simp [run, committed, delivered]
  | append_singleton front input ih =>
    rw [run_concat, ledger_tick hkeeps, committed_tick, delivered_tick, ih]
    simp only [List.append_assoc]

end Service

/-! ## Collaborators in memory -/

namespace MemoryCluster

def ledger (cluster : MemoryCluster) : Ledger :=
  ⟨cluster.committed, cluster.batches⟩

theorem keeps : collaborators.Keeps ledger where
  latest := by
    intro cluster answer after hread
    change cluster.latest = (answer, after) at hread
    rw [latest] at hread
    split at hread <;> cases hread <;> rfl
  latestSeq := by
    intro cluster answer after hseq
    change cluster.latestSeq = (answer, after) at hseq
    rw [latestSeq] at hseq
    split at hseq <;> cases hseq <;> rfl
  refused := by
    intro assignment cluster fault after hcommit
    change cluster.commit assignment = (.error fault, after) at hcommit
    rw [commit] at hcommit
    split at hcommit <;> cases hcommit
    rfl
  accepted := by
    intro assignment cluster after hcommit
    change cluster.commit assignment = (.ok (), after) at hcommit
    rw [commit] at hcommit
    split at hcommit <;> cases hcommit
    rfl
  dispatched := by
    intro batch cluster delivered after hdispatch
    change cluster.dispatch batch = (delivered, after) at hdispatch
    rw [dispatch] at hdispatch
    split at hdispatch <;> cases hdispatch
    · rfl
    · simp [ledger]

private theorem ledger_apply (cluster : MemoryCluster) (event : MemoryEvent) :
    (event.apply cluster).ledger = cluster.ledger := by
  cases event <;> rfl

end MemoryCluster

/-- Collaborators in memory, and what happens to them before their next
answers. -/
structure BusyCluster where
  cluster : MemoryCluster
  pending : List (List MemoryEvent) := []
  deriving DecidableEq

namespace BusyCluster

/-- The cluster once the events before the next answer have happened. -/
def upcoming (busy : BusyCluster) : MemoryCluster :=
  (busy.pending.headD []).foldl MemoryEvent.apply busy.cluster

/-- An answer that the next events come before. -/
def disturbed {α : Type} (answer : StateM MemoryCluster α) :
    StateM BusyCluster α :=
  fun busy =>
    let result := answer.run busy.upcoming
    (result.1, ⟨result.2, busy.pending.tail⟩)

/-- Collaborators in memory that anything may happen to between two answers. -/
def collaborators : Collaborators (StateM BusyCluster) where
  latest := disturbed MemoryCluster.collaborators.latest
  latestSeq := disturbed MemoryCluster.collaborators.latestSeq
  commit assignment := disturbed (MemoryCluster.collaborators.commit assignment)
  dispatch batch := disturbed (MemoryCluster.collaborators.dispatch batch)

def ledger (busy : BusyCluster) : Ledger := busy.cluster.ledger

private theorem ledger_upcoming (busy : BusyCluster) :
    busy.upcoming.ledger = busy.ledger := by
  rw [upcoming]
  induction busy.pending.headD [] using List.reverseRecOn with
  | nil => rfl
  | append_singleton front event ih =>
    rw [List.foldl_append]
    exact (MemoryCluster.ledger_apply _ event).trans ih

private theorem run_of_disturbed {α : Type} {question : StateM MemoryCluster α}
    {busy after : BusyCluster} {answer : α}
    (hanswer : (disturbed question).run busy = (answer, after)) :
    question.run busy.upcoming = (answer, after.cluster) := by
  cases hanswer
  rfl

theorem keeps : collaborators.Keeps ledger where
  latest hread :=
    (MemoryCluster.keeps.latest (run_of_disturbed hread)).trans
      (ledger_upcoming _)
  latestSeq hseq :=
    (MemoryCluster.keeps.latestSeq (run_of_disturbed hseq)).trans
      (ledger_upcoming _)
  refused hcommit :=
    (MemoryCluster.keeps.refused (run_of_disturbed hcommit)).trans
      (ledger_upcoming _)
  accepted hcommit := by
    have hledger := MemoryCluster.keeps.accepted (run_of_disturbed hcommit)
    rwa [ledger_upcoming] at hledger
  dispatched hdispatch := by
    have hledger := MemoryCluster.keeps.dispatched (run_of_disturbed hdispatch)
    rwa [ledger_upcoming] at hledger

section Run

variable (engine : EngineConfig) (interval : Span) (health : TickHealth)
  (busy : BusyCluster)
variable (hempty : busy.cluster.committed = []) (inputs : List TickInput)

include hempty

/-- What a new worker has committed is what the sink stores, if it was empty
before. -/
theorem committed_run :
    ((Service.opening engine interval health busy).run collaborators
        inputs).site.cluster.committed =
      ((Service.opening engine interval health busy).run collaborators
        inputs).committed := by
  have hledger := congrArg Ledger.committed
    (Service.ledger_run keeps { engine, interval, health } busy inputs)
  have hbefore : (ledger busy).committed = [] := hempty
  rw [hbefore, List.nil_append] at hledger
  exact hledger

/-- So the numbers in the sink grow, whatever happens to the cluster. -/
theorem increasing_committed_run :
    ((Service.opening engine interval health busy).run collaborators
      inputs).site.cluster.committed.Pairwise fun earlier later =>
        earlier.seq.value < later.seq.value := by
  have hdisciplined :=
    (Service.disciplined_opening engine interval health busy).run collaborators
      inputs
  rw [committed_run engine interval health busy hempty inputs]
  exact hdisciplined.increasing

end Run

end BusyCluster

end ClusterTick
