import ClusterTick.Storage.FileSystem

/-!
# What storage relies on

A file system keeps the files of some paths if each of them can be read,
replaced and renamed without regard to the others.  Readers and writers share
it: between two reads any number of steps of a writer may be taken.
-/

namespace ClusterTick

namespace FileStep

variable {σ : Type} {files : FileSystem (StateM σ)}

theorem runAll_cons (step : FileStep) (rest : List FileStep) (state : σ) :
    runAll files (step :: rest) state =
      match step.run files state with
      | (true, after) => runAll files rest after
      | (false, after) => (.error step.blamed, after) := by
  have hbind : runAll files (step :: rest) state =
      (match step.run files state with
        | (done, after) =>
          (if done then runAll files rest
           else return .error step.blamed : StateM σ _) after) :=
    rfl
  rw [hbind]
  obtain ⟨done, after⟩ := step.run files state
  cases done <;> rfl

theorem runAll_append (first second : List FileStep) (state : σ) :
    runAll files (first ++ second) state =
      match runAll files first state with
      | (.ok _, after) => runAll files second after
      | (.error path, after) => (.error path, after) := by
  induction first generalizing state with
  | nil => rfl
  | cons step rest ih =>
    rw [List.cons_append, runAll_cons, runAll_cons]
    obtain ⟨done, after⟩ := step.run files state
    cases done with
    | true => exact ih after
    | false => rfl

theorem runAll_append_of_ok {first : List FileStep} {state after : σ}
    (hfirst : runAll files first state = (.ok (), after))
    (second : List FileStep) :
    runAll files (first ++ second) state = runAll files second after := by
  rw [runAll_append, hfirst]

end FileStep

namespace FileSystem

variable {σ : Type}

/-- What is found at a path. -/
def contents (files : FileSystem (StateM σ)) (path : String) (state : σ) :
    ReadResult :=
  (files.read path state).1

/-- While a directory is there, the files of the given paths are kept apart.  A
write and a rename succeed and change nothing but the files that they name, and
a rename replaces its target at once. -/
structure Keeps (files : FileSystem (StateM σ)) (directory : String)
    (paths : List String) (ready : σ → Prop) : Prop where
  read : ∀ {state path}, ready state → path ∈ paths →
    (files.read path state).2 = state
  makeDirectory : ∀ {state}, ready state →
    ∃ after, files.makeDirectory directory state = (true, after) ∧ ready after ∧
      ∀ path ∈ paths, files.contents path after = files.contents path state
  write : ∀ {state path} (text), ready state → path ∈ paths →
    ∃ after, files.write path text state = (true, after) ∧ ready after ∧
      files.contents path after = .content text ∧
      ∀ other ∈ paths, other ≠ path →
        files.contents other after = files.contents other state
  rename : ∀ {state source target text}, ready state → source ∈ paths →
    target ∈ paths → source ≠ target →
    files.contents source state = .content text →
    ∃ after, files.rename source target state = (true, after) ∧ ready after ∧
      files.contents target after = .content text ∧
      files.contents source after = .missing ∧
      ∀ other ∈ paths, other ≠ source → other ≠ target →
        files.contents other after = files.contents other state

/-- The files as they are met by somebody who shares them with a writer.  Before
each of its reads the next batch of the steps of the writer is taken. -/
def shared (files : FileSystem (StateM σ)) :
    FileSystem (StateM (σ × List (List FileStep))) where
  read path := fun (state, pending) =>
    let state := (FileStep.runAll files (pending.headD []) state).2
    let (result, state) := files.read path state
    (result, (state, pending.tail))
  write path text := fun (state, pending) =>
    let (done, state) := files.write path text state
    (done, (state, pending))
  makeDirectory path := fun (state, pending) =>
    let (done, state) := files.makeDirectory path state
    (done, (state, pending))
  rename source target := fun (state, pending) =>
    let (done, state) := files.rename source target state
    (done, (state, pending))

end FileSystem

end ClusterTick
