import ClusterTick.Fixture.Scenario
import ClusterTick.Proofs.Storage.FileTree
import ClusterTick.Storage.Snapshots
import Mathlib.Data.List.Nodup

/-!
# Publication and concurrent readers

Snapshots are published one after the other, and somebody reads the three files
while that goes on.  At every moment each file is missing or has the rows of one
of the snapshots, so three reads with one number are those of one snapshot.
-/

namespace ClusterTick

/-- A text that is given by its characters is read from them. -/
theorem Json.parseShape?_ofList (shape : Shape) (chars : List Char) :
    parseShape? shape (String.ofList chars) = (do
      let (value, rest) ← readValue (chars.length + 1) maximumDepth shape chars
      if (skipBlanks rest).isEmpty then some value else none) := by
  rw [parseShape?, String.toList_ofList]

namespace SnapshotDirectory

/-- The three parts of a snapshot. -/
inductive Part where
  | nodes
  | tasks
  | users
  deriving DecidableEq, Repr

namespace Part

def all : List Part := [nodes, tasks, users]

def file : Part → String
  | nodes => nodesFile
  | tasks => tasksFile
  | users => usersFile

/-- Where a part is published. -/
def path (directory : String) (part : Part) : String :=
  FileStep.join directory part.file

/-- What is published of a snapshot as a part. -/
def text (snapshot : Snapshot) : Part → String
  | nodes => (JsonForm.toJson snapshot.nodesPart).pretty
  | tasks => (JsonForm.toJson snapshot.tasksPart).pretty
  | users => (JsonForm.toJson snapshot.usersPart).pretty

theorem mem_all (part : Part) : part ∈ all := by
  cases part <;> decide

end Part

/-- The paths that a publication uses: each part is staged and then renamed. -/
def paths (directory : String) : List String :=
  Part.all.flatMap fun part =>
    [part.path directory, FileStep.staging (part.path directory)]

theorem publishSteps_eq (directory : String) (snapshot : Snapshot) :
    publishSteps directory snapshot =
      .makeDirectory directory ::
        Part.all.flatMap fun part =>
          FileStep.replaceFile (part.path directory) (part.text snapshot) :=
  rfl

section Paths

variable (directory : String)

theorem path_mem_paths (part : Part) : part.path directory ∈ paths directory :=
  List.mem_flatMap.mpr ⟨part, part.mem_all, by simp⟩

theorem staging_mem_paths (part : Part) :
    FileStep.staging (part.path directory) ∈ paths directory :=
  List.mem_flatMap.mpr ⟨part, part.mem_all, by simp⟩

/-- Files of one directory have one path if they have one name. -/
theorem join_right_inj {left right : String} :
    FileStep.join directory left = FileStep.join directory right ↔
      left = right := by
  rw [FileStep.join, FileStep.join]
  split <;> exact String.append_right_inj _

private theorem staging_path (part : Part) :
    FileStep.staging (part.path directory) =
      FileStep.join directory (FileStep.staging part.file) := by
  rw [Part.path, FileStep.join, FileStep.join]
  split <;> simp only [FileStep.staging, String.append_assoc]

theorem path_inj {left right : Part} :
    left.path directory = right.path directory ↔ left = right := by
  rw [Part.path, Part.path, join_right_inj]
  cases left <;> cases right <;> decide

theorem path_ne_staging (left right : Part) :
    left.path directory ≠ FileStep.staging (right.path directory) := by
  rw [staging_path, Part.path, Ne, join_right_inj]
  cases left <;> cases right <;> decide

end Paths

section Writer

/-! ## The writer -/

variable {m : Type → Type} [Monad m]

/-- Publishes snapshots one after the other until one cannot be published. -/
def publishAll (system : FileSystem m) (directory : String) :
    List Snapshot → m (Except SnapshotFault Unit)
  | [] => return .ok ()
  | snapshot :: rest => do
    match ← publish system directory snapshot with
    | .ok _ => publishAll system directory rest
    | .error fault => return .error fault

/-- The steps of that. -/
def publishing (directory : String) (snapshots : List Snapshot) :
    List FileStep :=
  snapshots.flatMap (publishSteps directory)

variable {σ : Type} {files : FileSystem (StateM σ)} {directory : String}

private theorem publish_eq (snapshot : Snapshot) (state : σ) :
    publish files directory snapshot state =
      (FileStep.runAll files (publishSteps directory snapshot) state).map
        (Except.mapError SnapshotFault.unreadable) id := by
  rw [publish]
  cases hsteps : FileStep.runAll files (publishSteps directory snapshot)
    state with
  | mk result after =>
    cases result <;> simp [bind, StateT.bind, hsteps] <;> rfl

private theorem publishAll_eq (snapshots : List Snapshot) (state : σ) :
    publishAll files directory snapshots state =
      (FileStep.runAll files (publishing directory snapshots) state).map
        (Except.mapError SnapshotFault.unreadable) id := by
  induction snapshots generalizing state with
  | nil => rfl
  | cons snapshot rest ih =>
    have hsteps : publishing directory (snapshot :: rest) =
        publishSteps directory snapshot ++ publishing directory rest := rfl
    rw [publishAll, hsteps, FileStep.runAll_append]
    cases hrun : FileStep.runAll files (publishSteps directory snapshot)
      state with
    | mk result after =>
      have hfirst : publish files directory snapshot state =
          (result.mapError SnapshotFault.unreadable, after) := by
        rw [publish_eq, hrun]
        rfl
      cases result with
      | ok _ => simp [bind, StateT.bind, hfirst, Except.mapError, ih]
      | error path => simp [bind, StateT.bind, hfirst, Except.mapError]; rfl

variable {ready : σ → Prop}
  (hkeeps : files.Keeps directory (paths directory) ready)

include hkeeps

/-- A part is replaced, and the other parts stay. -/
theorem runAll_replaceFile {state : σ} (hready : ready state) (part : Part)
    (text : String) :
    ∃ after,
      FileStep.runAll files (FileStep.replaceFile (part.path directory) text)
          state = (.ok (), after) ∧
      ready after ∧ files.contents (part.path directory) after = .content text ∧
      ∀ other ≠ part,
        files.contents (other.path directory) after =
          files.contents (other.path directory) state := by
  obtain ⟨staged, hwrite, hready, hstaged, hothers⟩ :=
    hkeeps.write text hready (staging_mem_paths directory part)
  obtain ⟨after, hrename, hready, hreplaced, -, hrest⟩ :=
    hkeeps.rename hready (staging_mem_paths directory part)
      (path_mem_paths directory part) (path_ne_staging directory part part).symm
      hstaged
  refine ⟨after, ?_, hready, hreplaced, ?_⟩
  · simp only [FileStep.replaceFile, FileStep.runAll_cons, FileStep.run, hwrite,
      hrename]
    rfl
  · intro other hother
    have hpath := path_mem_paths directory other
    rw [hrest _ hpath (path_ne_staging directory other part)
        ((path_inj directory).not.mpr hother),
      hothers _ hpath (path_ne_staging directory other part)]

/-- So parts are replaced one after the other. -/
theorem runAll_replaceParts (snapshot : Snapshot) {parts : List Part}
    (hdistinct : parts.Nodup) {state : σ} (hready : ready state) :
    ∃ after,
      FileStep.runAll files
          (parts.flatMap fun part =>
            FileStep.replaceFile (part.path directory) (part.text snapshot))
          state = (.ok (), after) ∧
      ready after ∧
      (∀ part ∈ parts,
        files.contents (part.path directory) after =
          .content (part.text snapshot)) ∧
      ∀ part ∉ parts,
        files.contents (part.path directory) after =
          files.contents (part.path directory) state := by
  induction parts generalizing state with
  | nil => exact ⟨state, rfl, hready, by simp, fun _ _ => rfl⟩
  | cons part rest ih =>
    obtain ⟨hfresh, hrest⟩ := List.nodup_cons.mp hdistinct
    obtain ⟨between, hfirst, hready, hreplaced, hothers⟩ :=
      runAll_replaceFile hkeeps hready part (part.text snapshot)
    obtain ⟨after, hsecond, hready, htexts, hkept⟩ := ih hrest hready
    refine ⟨after, ?_, hready, ?_, ?_⟩
    · rw [List.flatMap_cons, FileStep.runAll_append_of_ok hfirst, hsecond]
    · intro other hother
      rcases List.mem_cons.mp hother with rfl | hother
      · rw [hkept _ hfresh, hreplaced]
      · exact htexts other hother
    · intro other hother
      rw [List.mem_cons, not_or] at hother
      rw [hkept other hother.2, hothers other hother.1]

/-- A publication succeeds, and leaves the parts of its snapshot. -/
theorem runAll_publishSteps (snapshot : Snapshot) {state : σ}
    (hready : ready state) :
    ∃ after,
      FileStep.runAll files (publishSteps directory snapshot) state =
        (.ok (), after) ∧
      ready after ∧
      ∀ part : Part,
        files.contents (part.path directory) after =
          .content (part.text snapshot) := by
  obtain ⟨made, hmade, hready, -⟩ := hkeeps.makeDirectory hready
  obtain ⟨after, hparts, hready, htexts, -⟩ :=
    runAll_replaceParts hkeeps snapshot (by decide : Part.all.Nodup) hready
  refine ⟨after, ?_, hready, fun part => htexts part part.mem_all⟩
  simp only [publishSteps_eq, FileStep.runAll_cons, FileStep.run, hmade]
  exact hparts

/-- Several publications leave the parts of the last snapshot. -/
theorem publishAll_append_singleton (earlier : List Snapshot) (last : Snapshot)
    {state : σ} (hready : ready state) :
    ∃ after,
      publishAll files directory (earlier ++ [last]) state = (.ok (), after) ∧
      ready after ∧
      ∀ part : Part,
        files.contents (part.path directory) after =
          .content (part.text last) := by
  rw [publishAll_eq]
  induction earlier generalizing state with
  | nil =>
    obtain ⟨after, hsteps, hready, htexts⟩ :=
      runAll_publishSteps hkeeps last hready
    refine ⟨after, ?_, hready, htexts⟩
    rw [List.nil_append, publishing, List.flatMap_singleton, hsteps]
    rfl
  | cons snapshot rest ih =>
    obtain ⟨between, hfirst, hready, -⟩ :=
      runAll_publishSteps hkeeps snapshot hready
    obtain ⟨after, hrest, hready, htexts⟩ := ih hready
    refine ⟨after, ?_, hready, htexts⟩
    rw [List.cons_append, publishing, List.flatMap_cons,
      FileStep.runAll_append_of_ok hfirst]
    exact hrest

end Writer

section Moments

/-! ## What a reader can find -/

/-- What is left of publications: the part that is staged now, and the steps to
come. -/
inductive Pending (directory : String) (snapshots : List Snapshot) :
    Option (Part × Snapshot) → List FileStep → Prop
  | done : Pending directory snapshots none []
  | makeDirectory {rest : List FileStep}
      (hrest : Pending directory snapshots none rest) :
      Pending directory snapshots none (.makeDirectory directory :: rest)
  | stage {part : Part} {snapshot : Snapshot} {rest : List FileStep}
      (hmem : snapshot ∈ snapshots)
      (hrest : Pending directory snapshots (some (part, snapshot)) rest) :
      Pending directory snapshots none
        (.write (FileStep.staging (part.path directory)) (part.text snapshot) ::
          rest)
  | replace {part : Part} {snapshot : Snapshot} {rest : List FileStep}
      (hrest : Pending directory snapshots none rest) :
      Pending directory snapshots (some (part, snapshot))
        (.rename (FileStep.staging (part.path directory))
            (part.path directory) ::
          rest)

private theorem pending_publishing (directory : String)
    {published snapshots : List Snapshot} (hsubset : published ⊆ snapshots) :
    Pending directory snapshots none (publishing directory published) := by
  induction published with
  | nil => exact .done
  | cons snapshot rest ih =>
    obtain ⟨hmem, hrest⟩ := List.cons_subset.mp hsubset
    have hreplace : ∀ (part : Part) {steps},
        Pending directory snapshots none steps →
        Pending directory snapshots none
          (FileStep.replaceFile (part.path directory) (part.text snapshot) ++
            steps) :=
      fun _ _ hsteps => .stage hmem (.replace hsteps)
    exact .makeDirectory
      (hreplace .nodes (hreplace .tasks (hreplace .users (ih hrest))))

/-- A file that is missing, or has a part of one of the snapshots. -/
def IsPartOf (snapshots : List Snapshot) (part : Part) (result : ReadResult) :
    Prop :=
  result = .missing ∨
    ∃ snapshot ∈ snapshots, result = .content (part.text snapshot)

variable {σ : Type}

/-- A moment of the publication of snapshots: every file is a part of one of
them, and what is staged is there. -/
structure Moment (files : FileSystem (StateM σ)) (directory : String)
    (ready : σ → Prop) (snapshots : List Snapshot)
    (staged : Option (Part × Snapshot)) (state : σ) : Prop where
  ready : ready state
  parts : ∀ part : Part,
    IsPartOf snapshots part (files.contents (part.path directory) state)
  staged : ∀ part snapshot, staged = some (part, snapshot) →
    snapshot ∈ snapshots ∧
      files.contents (FileStep.staging (part.path directory)) state =
        .content (part.text snapshot)

variable {files : FileSystem (StateM σ)} {directory : String} {ready : σ → Prop}
variable {snapshots : List Snapshot} {staged : Option (Part × Snapshot)}
  {state : σ}

theorem Moment.step (hkeeps : files.Keeps directory (paths directory) ready)
    (hmoment : Moment files directory ready snapshots staged state)
    {step : FileStep} {rest : List FileStep}
    (hpending : Pending directory snapshots staged (step :: rest)) :
    ∃ next after, step.run files state = (true, after) ∧
      Moment files directory ready snapshots next after ∧
      Pending directory snapshots next rest := by
  cases hpending with
  | makeDirectory hrest =>
    obtain ⟨after, hmade, hready, hkept⟩ := hkeeps.makeDirectory hmoment.ready
    refine ⟨none, after, hmade, ⟨hready, ?_, by simp⟩, hrest⟩
    intro part
    rw [hkept _ (path_mem_paths directory part)]
    exact hmoment.parts part
  | @stage part snapshot _ hmem hrest =>
    obtain ⟨after, hwrite, hready, hstaged, hkept⟩ :=
      hkeeps.write (part.text snapshot) hmoment.ready
        (staging_mem_paths directory part)
    refine ⟨_, after, hwrite, ⟨hready, ?_, ?_⟩, hrest⟩
    · intro other
      rw [hkept _ (path_mem_paths directory other)
        (path_ne_staging directory other part)]
      exact hmoment.parts other
    · rintro _ _ ⟨rfl⟩
      exact ⟨hmem, hstaged⟩
  | @replace part snapshot _ hrest =>
    obtain ⟨hmem, hcontent⟩ := hmoment.staged part snapshot rfl
    obtain ⟨after, hrename, hready, hreplaced, -, hkept⟩ :=
      hkeeps.rename hmoment.ready (staging_mem_paths directory part)
        (path_mem_paths directory part)
        (path_ne_staging directory part part).symm hcontent
    refine ⟨none, after, hrename, ⟨hready, ?_, by simp⟩, hrest⟩
    intro other
    by_cases hother : other = part
    · rw [hother, hreplaced]
      exact Or.inr ⟨snapshot, hmem, rfl⟩
    · rw [hkept _ (path_mem_paths directory other)
        (path_ne_staging directory other part)
        ((path_inj directory).not.mpr hother)]
      exact hmoment.parts other

theorem Moment.run (hkeeps : files.Keeps directory (paths directory) ready)
    (hmoment : Moment files directory ready snapshots staged state)
    {steps rest : List FileStep}
    (hpending : Pending directory snapshots staged (steps ++ rest)) :
    ∃ next,
      Moment files directory ready snapshots next
        (FileStep.runAll files steps state).2 ∧
      Pending directory snapshots next rest := by
  induction steps generalizing staged state with
  | nil => exact ⟨staged, hmoment, hpending⟩
  | cons step steps ih =>
    obtain ⟨next, after, hstep, hmoment, hpending⟩ :=
      hmoment.step hkeeps hpending
    rw [FileStep.runAll_cons, hstep]
    exact ih hmoment hpending

end Moments

section Reader

/-! ## The reader -/

/-- The parts of a snapshot can be read back as they were written. -/
structure IsReadBack (snapshot : Snapshot) : Prop where
  nodes : JsonForm.ofText? (Part.nodes.text snapshot) = some snapshot.nodesPart
  tasks : JsonForm.ofText? (Part.tasks.text snapshot) = some snapshot.tasksPart
  users : JsonForm.ofText? (Part.users.text snapshot) = some snapshot.usersPart

/-- One of the snapshots, whole, or a fault that another try may not meet. -/
def IsUntorn (snapshots : List Snapshot)
    (result : Except SnapshotFault Snapshot) : Prop :=
  (∃ snapshot ∈ snapshots, result = .ok snapshot) ∨
    ∃ fault : SnapshotFault, result = .error fault ∧ fault.isTransient

variable {snapshots : List Snapshot}

theorem combine_texts (directory : String) {first second third : Snapshot}
    (hfirst : IsReadBack first) (hsecond : IsReadBack second)
    (hthird : IsReadBack third) :
    combine directory (.content (Part.nodes.text first))
        (.content (Part.tasks.text second)) (.content (Part.users.text third)) =
      match Snapshot.assemble first.nodesPart second.tasksPart
        third.usersPart with
      | .ok snapshot => .ok snapshot
      | .error torn => .error (.tornRead torn) := by
  simp only [combine, decodeFile, hfirst.nodes, hsecond.tasks, hthird.users]
  rfl

theorem combine_isUntorn (directory : String)
    (hdistinct : (snapshots.map Snapshot.seq).Nodup)
    (hreadBack : ∀ snapshot ∈ snapshots, IsReadBack snapshot)
    {nodes tasks users : ReadResult} (hnodes : IsPartOf snapshots .nodes nodes)
    (htasks : IsPartOf snapshots .tasks tasks)
    (husers : IsPartOf snapshots .users users) :
    IsUntorn snapshots (combine directory nodes tasks users) := by
  have hincomplete : ∀ file, IsUntorn snapshots (.error (.incomplete file)) :=
    fun file => Or.inr ⟨_, rfl, rfl⟩
  obtain rfl | ⟨first, hfirst, rfl⟩ := hnodes
  · exact hincomplete nodesFile
  obtain rfl | ⟨second, hsecond, rfl⟩ := htasks
  · simp only [combine, decodeFile, (hreadBack first hfirst).nodes]
    exact hincomplete tasksFile
  obtain rfl | ⟨third, hthird, rfl⟩ := husers
  · simp only [combine, decodeFile, (hreadBack first hfirst).nodes,
      (hreadBack second hsecond).tasks]
    exact hincomplete usersFile
  rw [combine_texts directory (hreadBack first hfirst)
    (hreadBack second hsecond) (hreadBack third hthird)]
  by_cases hseq : first.seq = second.seq ∧ first.seq = third.seq
  · obtain rfl : first = second :=
      List.inj_on_of_nodup_map hdistinct hfirst hsecond hseq.1
    obtain rfl : first = third :=
      List.inj_on_of_nodup_map hdistinct hfirst hthird hseq.2
    rw [Snapshot.assemble_parts]
    exact Or.inl ⟨first, hfirst, rfl⟩
  · have htorn :
        Snapshot.assemble first.nodesPart second.tasksPart third.usersPart =
          .error ⟨first.seq, second.seq, third.seq⟩ :=
      if_neg hseq
    rw [htorn]
    exact Or.inr ⟨_, rfl, rfl⟩

variable {σ : Type} {files : FileSystem (StateM σ)} {directory : String}
  {ready : σ → Prop}

theorem read_path (hkeeps : files.Keeps directory (paths directory) ready)
    {state : σ} (hready : ready state) (part : Part) :
    files.read (part.path directory) state =
      (files.contents (part.path directory) state, state) :=
  Prod.ext rfl (hkeeps.read hready (path_mem_paths directory part))

private theorem latest_eq
    (hkeeps : files.Keeps directory (paths directory) ready) {state : σ}
    (hready : ready state) :
    (latest files directory state).1 =
      combine directory (files.contents (Part.nodes.path directory) state)
        (files.contents (Part.tasks.path directory) state)
        (files.contents (Part.users.path directory) state) := by
  have hreads : (latest files directory state).1 =
      let first := files.read (Part.nodes.path directory) state
      let second := files.read (Part.tasks.path directory) first.2
      let third := files.read (Part.users.path directory) second.2
      combine directory first.1 second.1 third.1 := rfl
  simp only [hreads, read_path hkeeps hready]

/-- The reads of somebody who shares the files take place at three moments. -/
theorem latest_shared (hkeeps : files.Keeps directory (paths directory) ready)
    {initial : σ} {snapshots : List Snapshot}
    {staged : Option (Part × Snapshot)}
    (hmoment : Moment files directory ready snapshots staged initial)
    {before between later rest : List FileStep}
    (hpending : Pending directory snapshots staged
      (before ++ between ++ later ++ rest)) :
    ∃ nodes tasks users, IsPartOf snapshots .nodes nodes ∧
      IsPartOf snapshots .tasks tasks ∧ IsPartOf snapshots .users users ∧
      (latest files.shared directory (initial, [before, between, later])).1 =
        combine directory nodes tasks users := by
  rw [List.append_assoc, List.append_assoc] at hpending
  obtain ⟨_, hfirst, hpending⟩ := hmoment.run hkeeps hpending
  obtain ⟨_, hsecond, hpending⟩ := hfirst.run hkeeps hpending
  obtain ⟨_, hthird, -⟩ := hsecond.run hkeeps hpending
  refine ⟨_, _, _, hfirst.parts .nodes, hsecond.parts .tasks,
    hthird.parts .users, ?_⟩
  have hreads :
      (latest files.shared directory (initial, [before, between, later])).1 =
        let first :=
          files.read (Part.nodes.path directory)
            (FileStep.runAll files before initial).2
        let second :=
          files.read (Part.tasks.path directory)
            (FileStep.runAll files between first.2).2
        let third :=
          files.read (Part.users.path directory)
            (FileStep.runAll files later second.2).2
        combine directory first.1 second.1 third.1 := rfl
  simp only [hreads, read_path hkeeps hfirst.ready,
    read_path hkeeps hsecond.ready, read_path hkeeps hthird.ready]

/-- A reader never sees a mixed or partial snapshot. -/
theorem latest_isUntorn (hkeeps : files.Keeps directory (paths directory) ready)
    {initial : σ} (hready : ready initial)
    (hempty : ∀ part : Part,
      files.contents (part.path directory) initial = .missing)
    (hdistinct : (snapshots.map Snapshot.seq).Nodup)
    (hreadBack : ∀ snapshot ∈ snapshots, IsReadBack snapshot) :
    (∀ before between later rest,
        before ++ between ++ later ++ rest = publishing directory snapshots →
        IsUntorn snapshots
          (latest files.shared directory
            (initial, [before, between, later])).1) ∧
      ∀ earlier last remaining, snapshots = earlier ++ last :: remaining →
        ∃ after,
          publishAll files directory (earlier ++ [last]) initial =
            (.ok (), after) ∧
          (latest files directory after).1 = .ok last := by
  constructor
  · intro before between later rest hsteps
    have hmoment : Moment files directory ready snapshots none initial :=
      ⟨hready, fun part => Or.inl (hempty part), by simp⟩
    have hpending := pending_publishing directory (List.Subset.refl snapshots)
    rw [← hsteps] at hpending
    obtain ⟨nodes, tasks, users, hnodes, htasks, husers, hlatest⟩ :=
      latest_shared hkeeps hmoment hpending
    rw [hlatest]
    exact combine_isUntorn directory hdistinct hreadBack hnodes htasks husers
  · intro earlier last remaining hsplit
    obtain ⟨after, hpublished, hready, htexts⟩ :=
      publishAll_append_singleton hkeeps earlier last hready
    have hlast : IsReadBack last := hreadBack last (hsplit ▸ by simp)
    refine ⟨after, hpublished, ?_⟩
    rw [latest_eq hkeeps hready, htexts, htexts, htexts,
      combine_texts directory hlast hlast hlast, Snapshot.assemble_parts]

/-- A tree with a directory that is empty. -/
def emptyShelf : FileTree := ⟨OrderedMap.ofList [("data", .directory)]⟩

private theorem serves_emptyShelf :
    emptyShelf.Serves "data" (paths "data") (fun path => path) where
  isPath := by decide +kernel
  directory := by
    have hto : FileTree.directoriesTo "data" = ["data"] := by
      simp only [FileTree.directoriesTo, FileTree.components,
        FileTree.splitOn_slash]
      decide +kernel
    have hresolved : emptyShelf.resolve "data" = .ok ["data"] := by
      simp only [FileTree.resolve, FileTree.splitOn_slash]
      decide +kernel
    rw [hto]
    rintro _ (_ | ⟨_, ⟨⟩⟩)
    exact ⟨["data"], hresolved, by decide +kernel⟩
  place := by
    have hnames : ∀ path ∈ paths "data",
        (path.toList.splitOnP (· == '/')).map String.ofList =
            ["data"] ++ [String.ofList (path.toList.drop 5)] ∧
          FileTree.isPath path ∧
          FileTree.isNewName (String.ofList (path.toList.drop 5)) ∧
          FileTree.pathOf ["data", String.ofList (path.toList.drop 5)] = path ∧
          emptyShelf.isDirectory ["data", String.ofList (path.toList.drop 5)] =
            false := by
      decide +kernel
    intro path hpath
    obtain ⟨hsplit, hvalid, hname, hkey, hfree⟩ := hnames path hpath
    rw [← FileTree.splitOn_slash] at hsplit
    exact ⟨_,
      FileTree.newPlace?_eq_some_iff.mpr ⟨["data"], _, ["data"], hsplit, hvalid,
        hname, by decide +kernel, by decide +kernel, rfl⟩, hkey, hfree⟩

/-- A cluster of one node and the task that waits for it. -/
def waitingCluster : Snapshot :=
  { group := ⟨"train"⟩ : Scenario }
    |>.addReadyNode ⟨"n1"⟩ "room"
    |>.addQuotaHolder ⟨"alice"⟩ 1
    |>.addQueued ⟨1⟩ ⟨"alice"⟩ 0 1
    |>.snapshot default

/-- The cluster after the task is gone. -/
def idleCluster : Snapshot := { waitingCluster with seq := ⟨2⟩, tasks := [] }

private theorem isReadBack_waitingCluster : IsReadBack waitingCluster := by
  constructor
  all_goals
    rw [Part.text, Json.pretty, JsonForm.ofText?, Json.parseShape?_ofList]
    decide +kernel

private theorem isReadBack_idleCluster : IsReadBack idleCluster := by
  constructor
  all_goals
    rw [Part.text, Json.pretty, JsonForm.ofText?, Json.parseShape?_ofList]
    decide +kernel

/-- Somebody reads the nodes of the first generation, the tasks after those of
the second one have been staged, and the users in the end.  A read after that
finds the second generation. -/
theorem latest_isUntorn_idleCluster :
    IsUntorn [waitingCluster, idleCluster]
        (latest FileTree.fileSystem.shared "data"
          (emptyShelf,
            [publishing "data" [waitingCluster],
              (publishing "data" [idleCluster]).take 4,
              (publishing "data" [idleCluster]).drop 4])).1 ∧
      ∃ after,
        publishAll FileTree.fileSystem "data" [waitingCluster, idleCluster]
            emptyShelf = (.ok (), after) ∧
        (latest FileTree.fileSystem "data" after).1 = .ok idleCluster := by
  have hdistinct : ([waitingCluster, idleCluster].map Snapshot.seq).Nodup := by
    decide
  have hreadBack :
      ∀ snapshot ∈ [waitingCluster, idleCluster], IsReadBack snapshot := by
    simp [isReadBack_waitingCluster, isReadBack_idleCluster]
  have hempty : ∀ part : Part,
      FileTree.fileSystem.contents (part.path "data") emptyShelf =
        .missing := by
    intro part
    exact serves_emptyShelf.contents_eq_missing (path_mem_paths "data" part)
      (by cases part <;> decide +kernel)
  have huntorn :=
    latest_isUntorn (FileTree.keeps fun _ _ _ _ hsame => hsame)
      serves_emptyShelf hempty hdistinct hreadBack
  exact ⟨huntorn.1 _ _ _ [] rfl, huntorn.2 [waitingCluster] idleCluster [] rfl⟩

end Reader

end SnapshotDirectory

end ClusterTick
