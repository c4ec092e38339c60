import ClusterTick.Fixture.Scenario
import ClusterTick.Model.Assignment
import ClusterTick.Proofs.Json.ReadBackForm

/-!
# Records survive a round trip

The state of the cluster is handed from tick to tick as JSON, and what one side
has written is what the other side reads: every record is read back from its
form and from the texts of the form.  Times and doubles are read back as far as
each is read back from its own printed text.
-/

namespace ClusterTick

instance : ReadBackForm UserRole :=
  ReadBackForm.ofText (fun _ => rfl) fun value => by cases value <;> decide

instance : ReadBackForm IntentKind :=
  ReadBackForm.ofText (fun _ => rfl) fun value => by cases value <;> decide

/-- A time that is read back from its own text. -/
def Instant.IsReadBack (instant : Instant) : Prop :=
  read? instant.text = some instant

/-- A task whose custom rank, if it has one, is finite and read back from its
own text. -/
def Task.HasReadableRank (task : Task) : Prop :=
  ∀ rank ∈ task.customRank, rank.isFinite ∧ (JsonNumber.double rank).IsReadBack

namespace JsonForm

variable (depth : Nat)

theorem isReadBack_instant {instant : Instant} (hback : instant.IsReadBack) :
    IsReadBack depth instant :=
  ⟨hback, Json.fits_string depth _ _⟩

/-- A rank that is not finite would be written like an absent one. -/
theorem isReadBack_rank {task : Task} (hrank : task.HasReadableRank) :
    IsReadBack depth task.customRank := by
  rw [Task.HasReadableRank] at hrank
  generalize task.customRank = rank at hrank
  cases rank with
  | none => exact ⟨rfl, Json.fits_null depth _⟩
  | some value =>
    obtain ⟨hfinite, hback⟩ := hrank value rfl
    have hform : toJson (some value) = .number (.double value) := if_pos hfinite
    refine ⟨by rw [hform]; rfl, ?_⟩
    rw [hform]
    exact Json.fits_number hback depth _

theorem isReadBack_node (node : Node) : IsReadBack (depth + 1) node :=
  isReadBack_record rfl (fun _ => rfl) rfl rfl (by decide) (by simp) (by simp)

theorem isReadBack_task {task : Task} (hrank : task.HasReadableRank) :
    IsReadBack (depth + 2) task := by
  have hrank := isReadBack_rank (depth + 1) hrank
  exact isReadBack_record rfl (fun _ => rfl) rfl rfl (by decide)
    (by simp [hrank.ofJson?_toJson]) (by simp [hrank.fits.whole])

theorem isReadBack_user (user : User) : IsReadBack (depth + 2) user := by
  have hquota := isReadBack_map fun entry (_ : entry ∈ user.quota.entries) =>
    ReadBackForm.isReadBack depth entry.2
  exact isReadBack_record rfl (fun _ => rfl) rfl rfl (by decide)
    (by simp [hquota.ofJson?_toJson]) (by simp [hquota.fits.whole])

theorem isReadBack_part {α : Type} [JsonForm α] {part : SnapshotPart α}
    (htaken : part.takenAt.IsReadBack)
    (hrecords : ∀ row ∈ part.records, IsReadBack depth row) :
    IsReadBack (depth + 2) part := by
  have htaken := isReadBack_instant (depth + 1) htaken
  have hrecords := isReadBack_list hrecords
  exact isReadBack_record rfl (fun _ => rfl) rfl rfl (by decide)
    (by simp [htaken.ofJson?_toJson, hrecords.ofJson?_toJson])
    (by simp [htaken.fits.whole, hrecords.fits])

theorem isReadBack_snapshot {snapshot : Snapshot}
    (htaken : snapshot.takenAt.IsReadBack)
    (hranks : ∀ task ∈ snapshot.tasks, task.HasReadableRank) :
    IsReadBack (depth + 4) snapshot := by
  have htaken := isReadBack_instant (depth + 3) htaken
  have hnodes := isReadBack_list fun node (_ : node ∈ snapshot.nodes) =>
    isReadBack_node (depth + 1) node
  have htasks :=
    isReadBack_list fun task htask => isReadBack_task depth (hranks task htask)
  have husers :=
    isReadBack_list fun user (_ : user ∈ snapshot.users) =>
      isReadBack_user depth user
  exact isReadBack_record rfl (fun _ => rfl) rfl rfl (by decide)
    (by
      simp [htaken.ofJson?_toJson, hnodes.ofJson?_toJson, htasks.ofJson?_toJson,
        husers.ofJson?_toJson])
    (by simp [htaken.fits.whole, hnodes.fits, htasks.fits, husers.fits])

theorem isReadBack_assignment {assignment : Assignment}
    (hdecided : assignment.decidedAt.IsReadBack)
    (hranks : ∀ task ∈ assignment.tasks, task.HasReadableRank) :
    IsReadBack (depth + 4) assignment := by
  have hdecided := isReadBack_instant (depth + 3) hdecided
  have hnodes := isReadBack_list fun node (_ : node ∈ assignment.nodes) =>
    isReadBack_node (depth + 1) node
  have htasks :=
    isReadBack_list fun task htask => isReadBack_task depth (hranks task htask)
  exact isReadBack_record rfl (fun _ => rfl) rfl rfl (by decide)
    (by
      simp [Assignment.outcomeMembers, hdecided.ofJson?_toJson,
        hnodes.ofJson?_toJson, htasks.ofJson?_toJson])
    (by
      simp [Assignment.outcomeMembers, hdecided.fits.whole, hnodes.fits,
        htasks.fits])

theorem isReadBack_intent (intent : Intent) : IsReadBack (depth + 2) intent :=
  isReadBack_record rfl (fun _ => rfl) rfl rfl (by decide) (by simp) (by simp)

theorem isReadBack_batch {batch : IntentBatch}
    (hissued : batch.issuedAt.IsReadBack) : IsReadBack (depth + 4) batch := by
  have hissued := isReadBack_instant (depth + 3) hissued
  have hintents := isReadBack_list fun intent (_ : intent ∈ batch.intents) =>
    isReadBack_intent depth intent
  exact isReadBack_record rfl (fun _ => rfl) rfl rfl (by decide)
    (by simp [hissued.ofJson?_toJson, hintents.ofJson?_toJson])
    (by simp [hissued.fits.whole, hintents.fits])

end JsonForm

open JsonForm

/-- Every record survives being written and read as JSON. -/
theorem records_survive :
    (∀ node : Node, Survives node) ∧
    (∀ task : Task, task.HasReadableRank → Survives task) ∧
    (∀ user : User, Survives user) ∧
    (∀ snapshot : Snapshot, snapshot.takenAt.IsReadBack →
      (∀ task ∈ snapshot.tasks, task.HasReadableRank) → Survives snapshot) ∧
    (∀ part : SnapshotPart Node, part.takenAt.IsReadBack → Survives part) ∧
    (∀ part : SnapshotPart Task, part.takenAt.IsReadBack →
      (∀ task ∈ part.records, task.HasReadableRank) → Survives part) ∧
    (∀ part : SnapshotPart User, part.takenAt.IsReadBack → Survives part) ∧
    (∀ assignment : Assignment, assignment.decidedAt.IsReadBack →
      (∀ task ∈ assignment.tasks, task.HasReadableRank) → Survives assignment) ∧
    ∀ batch : IntentBatch, batch.issuedAt.IsReadBack → Survives batch := by
  refine ⟨?_, ?_, ?_, ?_, ?_, ?_, ?_, ?_, ?_⟩
  · exact fun node => (isReadBack_node _ node).survives
  · exact fun task hrank => (isReadBack_task _ hrank).survives
  · exact fun user => (isReadBack_user _ user).survives
  · exact fun snapshot htaken hranks =>
      (isReadBack_snapshot _ htaken hranks).survives
  · exact fun part htaken => (isReadBack_part _ htaken fun node _ =>
      isReadBack_node _ node).survives
  · exact fun part htaken hranks => (isReadBack_part _ htaken fun task htask =>
      isReadBack_task _ (hranks task htask)).survives
  · exact fun part htaken => (isReadBack_part _ htaken fun user _ =>
      isReadBack_user _ user).survives
  · exact fun assignment hdecided hranks =>
      (isReadBack_assignment _ hdecided hranks).survives
  · exact fun batch hissued => (isReadBack_batch _ hissued).survives

/-- A task with a custom rank of one and a half. -/
def rankedTask : Task where
  id := ⟨1⟩
  chainId := ⟨"chain \"one\""⟩
  firstId := ⟨1⟩
  userName := ⟨"alice"⟩
  priority := -10
  customRank := some (.ofRatio 3 2)
  nodes := 1
  processResult := .startup

/-- A cluster at some time with that task. -/
def rankedCluster : Snapshot :=
  ({} : Scenario)
    |>.addNode { Scenario.readyNode ⟨"default"⟩ ⟨"n1"⟩ "room" with
                 working := some ⟨1⟩ }
    |>.addUser
      { userName := ⟨"alice"⟩,
        quota := OrderedMap.ofList [("node-train-HIGH", -1)] }
    |>.addTask rankedTask
    |>.snapshot ⟨1704067200123000000⟩

/-- What was decided on it. -/
def rankedAssignment : Assignment where
  seq := rankedCluster.seq
  valid := true
  decidedAt := rankedCluster.takenAt
  nodes := rankedCluster.nodes
  tasks := rankedCluster.tasks

theorem records_survive_ranked :
    rankedTask.HasReadableRank ∧ rankedCluster.takenAt.IsReadBack ∧
      Survives rankedTask ∧ Survives rankedCluster ∧
      Survives rankedCluster.nodesPart ∧ Survives rankedCluster.tasksPart ∧
      Survives rankedCluster.usersPart ∧ Survives rankedAssignment ∧
      Survives rankedAssignment.intents := by
  have hrank : rankedTask.HasReadableRank := by
    rintro rank ⟨⟩
    unfold JsonNumber.IsReadBack
    decide +kernel
  have htime : rankedCluster.takenAt.IsReadBack := by
    rw [Instant.IsReadBack, Instant.text, Instant.read?, String.toList_ofList]
    decide +kernel
  have hranks : ∀ task ∈ [rankedTask], task.HasReadableRank := by
    simpa using hrank
  obtain ⟨-, htask, -, hsnapshot, hnodes, htasks, husers, hassignment,
      hbatch⟩ :=
    records_survive
  exact ⟨hrank, htime, htask _ hrank, hsnapshot _ htime hranks, hnodes _ htime,
    htasks _ htime hranks, husers _ htime, hassignment _ htime hranks,
    hbatch _ htime⟩

end ClusterTick
