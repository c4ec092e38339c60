import ClusterTick.Proofs.Order.OrderedMap
import ClusterTick.Proofs.Storage.FileSystem
import ClusterTick.Storage.FileTree
import Mathlib.Data.String.Basic

/-!
# A tree of files keeps its files apart

As long as only files come and go, the directories of a tree stay, and a path
leads to the same place.  So files in different places can be replaced without
regard to each other.
-/

namespace ClusterTick.FileTree

section Names

/-! ## The names in a path -/

open String

/-- The rest of a text is split at its slashes, from within a part. -/
theorem splitOnAux_slash (left part rest : List Char) (done : List String) :
    splitOnAux (ofList (left ++ part ++ rest)) "/" ⟨utf8Len left⟩
        ⟨utf8Len left + utf8Len part⟩ 0 done =
      done.reverse ++
        (List.splitOnPPrepend (· == '/') rest part.reverse).map ofList := by
  induction rest generalizing left part done with
  | nil =>
    have hend : Pos.Raw.atEnd (ofList (left ++ part ++ []))
        ⟨utf8Len left + utf8Len part⟩ := by
      simp only [atEnd_iff, Pos.Raw.le_iff, rawEndPos_ofList, utf8Len_append,
        utf8Len_nil, Nat.add_zero, Nat.le_refl]
    rw [splitOnAux, if_pos hend, extract_of_valid]
    simp
  | cons c rest ih =>
    have hopen : ¬ Pos.Raw.atEnd (ofList (left ++ part ++ c :: rest))
        ⟨utf8Len left + utf8Len part⟩ := by
      have hsize := c.utf8Size_pos
      simp only [atEnd_iff, Pos.Raw.le_iff, rawEndPos_ofList, utf8Len_append,
        utf8Len_cons]
      omega
    have hget := get_of_valid (left ++ part) (c :: rest)
    have hnext := next_of_valid (left ++ part) c rest
    rw [utf8Len_append] at hget hnext
    have hslash : Pos.Raw.get "/" 0 = '/' := by decide
    have hafter : Pos.Raw.next "/" 0 = ⟨1⟩ := by decide
    have hall : Pos.Raw.atEnd "/" ⟨1⟩ = true := by decide
    rw [splitOnAux, if_neg hopen, hget, hnext, hslash, hafter]
    simp only [hall, if_true, List.headD_cons]
    by_cases hc : c = '/'
    · have hback :
          (⟨utf8Len left + utf8Len part + c.utf8Size⟩ : Pos.Raw).unoffsetBy
              ⟨1⟩ =
            ⟨utf8Len left + utf8Len part⟩ := by
        rw [hc]
        rfl
      have hrest := ih (left ++ part ++ [c]) [] (ofList part :: done)
      simp only [utf8Len_append, utf8Len_cons, utf8Len_nil, List.append_nil,
        Nat.add_zero, Nat.zero_add, ← Nat.add_assoc, List.append_assoc,
        List.singleton_append] at hrest
      simp only [hc, beq_self_eq_true, if_true] at hrest hback ⊢
      rw [hback, extract_of_valid, List.append_assoc, hrest]
      simp [List.splitOnPPrepend_cons_eq_if]
    · have hstay : (⟨utf8Len left + utf8Len part⟩ : Pos.Raw).unoffsetBy 0 =
          ⟨utf8Len left + utf8Len part⟩ := rfl
      have hrest := ih left (part ++ [c]) done
      simp only [utf8Len_append, utf8Len_cons, utf8Len_nil, Nat.zero_add,
        ← Nat.add_assoc, List.append_assoc, List.singleton_append] at hrest
      rw [if_neg (by simpa using hc), hstay, hnext, List.append_assoc, hrest]
      simp [List.splitOnPPrepend_cons_eq_if, hc]

/-- A text is split at its slashes, character by character. -/
theorem splitOn_slash (text : String) :
    text.splitOn "/" = (text.toList.splitOnP (· == '/')).map ofList := by
  have hsplit := splitOnAux_slash [] [] text.toList []
  simp only [List.nil_append, List.append_nil, utf8Len_nil, Nat.add_zero,
    ofList_toList, List.reverse_nil] at hsplit
  rw [splitOn, if_neg (by decide)]
  exact hsplit
end Names

variable {tree left right : FileTree} {path : String} {place : List String}

section Places

/-! ## Places -/

/-- Two trees have the same directories. -/
def SameDirectories (left right : FileTree) : Prop :=
  ∀ place, right.isDirectory place = left.isDirectory place

theorem lookup_of_ne_nil (tree : FileTree) (hplace : place ≠ []) :
    tree.lookup place = tree.entries.get? (pathOf place) := by
  cases place with
  | nil => exact absurd rfl hplace
  | cons => rfl

theorem isDirectory_iff :
    tree.isDirectory place ↔ tree.lookup place = some .directory := by
  rw [isDirectory]
  split <;> simp_all

private theorem sameDirectories_of_entries
    (hentries : ∀ key,
      right.entries.get? key = some .directory ↔
        left.entries.get? key = some .directory) :
    SameDirectories left right := by
  intro place
  rw [Bool.eq_iff_iff, isDirectory_iff, isDirectory_iff]
  by_cases hplace : place = []
  · rw [hplace]
    rfl
  · rw [lookup_of_ne_nil _ hplace, lookup_of_ne_nil _ hplace, hentries]

/-- Nothing is below what is not a directory. -/
theorem isDirectory_of_foldlM {start : List String} {names : List String}
    (hwalk : names.foldlM tree.follow start = .ok place)
    (hplace : tree.isDirectory place) : tree.isDirectory start := by
  cases names with
  | nil =>
    cases hwalk
    exact hplace
  | cons name rest =>
    by_contra hstart
    rw [Bool.not_eq_true] at hstart
    rw [List.foldlM_cons, follow, hstart] at hwalk
    cases hwalk

/-- A name that leads to a directory does so in every tree with the same
directories. -/
theorem follow_congr (hsame : SameDirectories left right)
    {start next : List String} {name : String}
    (hnext : left.follow start name = .ok next)
    (hdirectory : left.isDirectory next) :
    right.follow start name = .ok next := by
  have hother : right.isDirectory next := by rwa [hsame]
  rw [isDirectory_iff] at hother
  rw [follow] at hnext ⊢
  rw [hsame]
  grind

/-- A path that leads to a directory does so in every tree with the same
directories. -/
theorem foldlM_follow_congr (hsame : SameDirectories left right)
    {start : List String} {names : List String}
    (hwalk : names.foldlM left.follow start = .ok place)
    (hplace : left.isDirectory place) :
    names.foldlM right.follow start = .ok place := by
  induction names generalizing start with
  | nil => exact hwalk
  | cons name rest ih =>
    rw [List.foldlM_cons] at hwalk ⊢
    cases hnext : left.follow start name with
    | error fault =>
      rw [hnext] at hwalk
      cases hwalk
    | ok next =>
      rw [hnext] at hwalk
      have hdirectory : left.isDirectory next :=
        isDirectory_of_foldlM hwalk hplace
      rw [follow_congr hsame hnext hdirectory]
      exact ih hwalk

/-- A path has a place in the directory to which all its names but the last one
lead. -/
theorem newPlace?_eq_some_iff :
    tree.newPlace? path = some place ↔
      ∃ above name parent, path.splitOn "/" = above ++ [name] ∧ isPath path ∧
        isNewName name ∧ above.foldlM tree.follow [] = .ok parent ∧
        tree.isDirectory parent ∧ place = parent ++ [name] := by
  constructor
  · intro hplace
    simp only [newPlace?, Option.ite_none_left_eq_some, Bool.not_eq_true,
      Bool.or_eq_false_iff, Bool.not_eq_eq_eq_not, Bool.not_false] at hplace
    obtain ⟨⟨hpath, hname⟩, hplace⟩ := hplace
    have hnames : path.splitOn "/" ≠ [] := by
      intro hnil
      rw [hnil] at hname
      cases hname
    rw [List.getLast?_eq_some_getLast hnames, Option.getD_some] at hname hplace
    split at hplace
    next parent hwalk =>
      rw [Option.ite_none_right_eq_some] at hplace
      exact ⟨_, _, parent, (List.dropLast_append_getLast hnames).symm, hpath,
        hname, hwalk, hplace.1, (Option.some.inj hplace.2).symm⟩
    next => cases hplace
  · rintro ⟨above, name, parent, hnames, hpath, hname, hwalk, hparent, rfl⟩
    simp [newPlace?, hnames, hpath, hname, hwalk, hparent]

private theorem newPlace?_congr (hsame : SameDirectories left right)
    (hplace : left.newPlace? path = some place) :
    right.newPlace? path = some place := by
  obtain ⟨above, name, parent, hnames, hpath, hname, hwalk, hparent, rfl⟩ :=
    newPlace?_eq_some_iff.mp hplace
  exact newPlace?_eq_some_iff.mpr ⟨above, name, parent, hnames, hpath, hname,
    foldlM_follow_congr hsame hwalk hparent, by rwa [hsame], rfl⟩

theorem ne_nil_of_newPlace? (hplace : tree.newPlace? path = some place) :
    place ≠ [] := by
  obtain ⟨_, _, _, -, -, -, -, -, rfl⟩ := newPlace?_eq_some_iff.mp hplace
  exact List.append_ne_nil_of_right_ne_nil _ (List.cons_ne_nil _ _)

/-- The last name of a path leads to its place if there is something. -/
theorem resolve_of_newPlace? (hplace : tree.newPlace? path = some place) :
    tree.resolve path =
      match tree.entries.get? (pathOf place) with
      | some _ => .ok place
      | none => .error .missing := by
  have hlookup := lookup_of_ne_nil tree (ne_nil_of_newPlace? hplace)
  obtain ⟨above, name, parent, hnames, hpath, hname, hwalk, hparent, rfl⟩ :=
    newPlace?_eq_some_iff.mp hplace
  simp only [isNewName, Bool.and_eq_true, decide_eq_true_eq] at hname
  obtain ⟨⟨⟨hempty, hdot⟩, hdots⟩, hlength⟩ := hname
  have hfollow : tree.follow parent name =
      match tree.lookup (parent ++ [name]) with
      | some _ => .ok (parent ++ [name])
      | none => .error .missing := by
    rw [follow, hparent, if_neg (not_or.mpr ⟨hempty, hdot⟩), if_neg hdots,
      if_neg (Nat.not_lt.mpr hlength)]
    rfl
  have hlast : tree.resolve path = tree.follow parent name >>= pure := by
    rw [resolve, if_pos hpath, hnames, List.foldlM_append, hwalk]
    rfl
  rw [hlast, bind_pure, hfollow, hlookup]

end Places

section Operations

/-! ## Operations -/

theorem read_of_newPlace? (hplace : tree.newPlace? path = some place) :
    tree.read path =
      match tree.entries.get? (pathOf place) with
      | some (.file text) => .content text
      | some .directory => .failed
      | none => .missing := by
  have hlookup := lookup_of_ne_nil tree (ne_nil_of_newPlace? hplace)
  rw [read, resolve_of_newPlace? hplace]
  cases hentry : tree.entries.get? (pathOf place) with
  | none => rfl
  | some entry => cases entry <;> simp [hlookup, hentry]

theorem write_of_newPlace? (hplace : tree.newPlace? path = some place)
    (hfree : tree.isDirectory place = false) (text : String) :
    tree.write path text = (true, tree.put place (.file text)) := by
  simp [write, hplace, hfree]

/-- A tree without what stands at a path. -/
def without (tree : FileTree) (path : String) : FileTree :=
  ⟨OrderedMap.ofList (tree.entries.entries.filter fun entry => entry.1 ≠ path)⟩

theorem remove_of_newPlace? (hplace : tree.newPlace? path = some place)
    {text : String}
    (hfile : tree.entries.get? (pathOf place) = some (.file text)) :
    tree.remove path = (true, tree.without (pathOf place)) := by
  have hlookup := lookup_of_ne_nil tree (ne_nil_of_newPlace? hplace)
  simp [remove, resolve_of_newPlace? hplace, hfile, hlookup, without]

end Operations

section Keeps

/-! ## Keeping files apart -/

/-- The directories that are made before a directory, and the directory
itself. -/
def directoriesTo (path : String) : List String :=
  let above := (components path).dropLast
  (List.range above.length).map
      (fun count => pathOf (above.take (count + 1))) ++
    [path]

/-- A directory is there, and a file can stand at each of the given paths, whose
places have the given names. -/
structure Serves (directory : String) (paths : List String)
    (nameOf : String → String) (tree : FileTree) : Prop where
  isPath : isPath directory
  directory : ∀ path ∈ directoriesTo directory,
    ∃ place, tree.resolve path = .ok place ∧ tree.isDirectory place
  place : ∀ path ∈ paths, ∃ place, tree.newPlace? path = some place ∧
    pathOf place = nameOf path ∧ tree.isDirectory place = false

variable {directory : String} {paths : List String} {nameOf : String → String}

private theorem resolve_congr (hsame : SameDirectories left right)
    (hresolved : left.resolve path = .ok place)
    (hplace : left.isDirectory place) : right.resolve path = .ok place := by
  rw [resolve] at hresolved ⊢
  split at hresolved
  next hpath =>
    rw [if_pos hpath]
    exact foldlM_follow_congr hsame hresolved hplace
  next => cases hresolved

/-- Files may come and go. -/
theorem Serves.of_entries (hserves : left.Serves directory paths nameOf)
    (hentries : ∀ key,
      right.entries.get? key = some .directory ↔
        left.entries.get? key = some .directory) :
    right.Serves directory paths nameOf where
  isPath := hserves.isPath
  directory := by
    have hsame := sameDirectories_of_entries hentries
    intro path hpath
    obtain ⟨place, hresolved, hplace⟩ := hserves.directory path hpath
    exact ⟨place, resolve_congr hsame hresolved hplace, by rwa [hsame]⟩
  place := by
    have hsame := sameDirectories_of_entries hentries
    intro path hpath
    obtain ⟨place, hplace, hname, hfree⟩ := hserves.place path hpath
    exact ⟨place, newPlace?_congr hsame hplace, hname, by rwa [hsame]⟩

theorem Serves.makeDirectory_eq (hserves : tree.Serves directory paths nameOf) :
    tree.makeDirectory directory = (true, tree) := by
  have hmade : ∀ path ∈ directoriesTo directory,
      tree.makeOneDirectory path = (true, tree) := by
    intro path hpath
    obtain ⟨place, hresolved, hplace⟩ := hserves.directory path hpath
    rw [makeOneDirectory, hresolved]
    exact Prod.ext hplace rfl
  rw [makeDirectory, if_neg (by simp [hserves.isPath])]
  apply List.foldlRecOn (motive := fun made => made = (true, tree)) _ _ rfl
  rintro _ rfl path hpath
  exact hmade path hpath

/-- What is found at a path that has a place. -/
theorem Serves.contents_eq (hserves : tree.Serves directory paths nameOf)
    (hpath : path ∈ paths) :
    fileSystem.contents path tree = match tree.entries.get? (nameOf path) with
      | some (.file text) => .content text
      | some .directory => .failed
      | none => .missing := by
  obtain ⟨place, hplace, hname, -⟩ := hserves.place path hpath
  rw [← hname]
  exact read_of_newPlace? hplace

theorem Serves.contents_eq_content_iff
    (hserves : tree.Serves directory paths nameOf) (hpath : path ∈ paths)
    {text : String} :
    fileSystem.contents path tree = .content text ↔
      tree.entries.get? (nameOf path) = some (.file text) := by
  rw [hserves.contents_eq hpath]
  split <;> simp_all

theorem Serves.contents_eq_missing
    (hserves : tree.Serves directory paths nameOf) (hpath : path ∈ paths)
    (hnone : tree.entries.get? (nameOf path) = none) :
    fileSystem.contents path tree = .missing := by
  rw [hserves.contents_eq hpath, hnone]

theorem Serves.contents_congr (hleft : left.Serves directory paths nameOf)
    (hright : right.Serves directory paths nameOf) (hpath : path ∈ paths)
    (hsame : right.entries.get? (nameOf path) =
      left.entries.get? (nameOf path)) :
    fileSystem.contents path right = fileSystem.contents path left := by
  rw [hright.contents_eq hpath, hleft.contents_eq hpath, hsame]

theorem Serves.not_directory (hserves : tree.Serves directory paths nameOf)
    (hpath : path ∈ paths) :
    tree.entries.get? (nameOf path) ≠ some .directory := by
  obtain ⟨place, hplace, hname, hfree⟩ := hserves.place path hpath
  rw [← hname, ← lookup_of_ne_nil _ (ne_nil_of_newPlace? hplace), Ne,
    ← isDirectory_iff, hfree]
  exact Bool.false_ne_true

/-- A file is written in its place, and nothing else changes. -/
theorem Serves.write_spec (hserves : tree.Serves directory paths nameOf)
    (hpath : path ∈ paths) (text : String) :
    ∃ after, tree.write path text = (true, after) ∧
      after.Serves directory paths nameOf ∧
      ∀ key,
        after.entries.get? key =
          if key = nameOf path then some (.file text)
          else tree.entries.get? key := by
  obtain ⟨place, hplace, hname, hfree⟩ := hserves.place path hpath
  have hentry : ∀ key,
      (tree.put place (.file text)).entries.get? key =
        if key = nameOf path then some (.file text)
        else tree.entries.get? key := by
    intro key
    rw [put, OrderedMap.get?_insert, hname]
  refine ⟨_, write_of_newPlace? hplace hfree text, hserves.of_entries ?_,
    hentry⟩
  intro key
  rw [hentry]
  split
  next hkey => simp [hkey, hserves.not_directory hpath]
  next => rfl

/-- A file is removed, and nothing else changes. -/
theorem Serves.remove_spec (hserves : tree.Serves directory paths nameOf)
    (hpath : path ∈ paths) {text : String}
    (hfile : tree.entries.get? (nameOf path) = some (.file text)) :
    ∃ after, tree.remove path = (true, after) ∧
      after.Serves directory paths nameOf ∧
      ∀ key,
        after.entries.get? key =
          if key = nameOf path then none else tree.entries.get? key := by
  obtain ⟨place, hplace, hname, -⟩ := hserves.place path hpath
  rw [← hname] at hfile
  have hentry : ∀ key, (tree.without (pathOf place)).entries.get? key =
      if key = nameOf path then none else tree.entries.get? key := by
    intro key
    rw [without, OrderedMap.get?_ofList_entries_remove, hname]
  refine ⟨_, remove_of_newPlace? hplace hfile, hserves.of_entries ?_, hentry⟩
  intro key
  rw [hentry]
  split
  next hkey => simp [hkey, hserves.not_directory hpath]
  next => rfl

/-- A file is moved, and nothing else changes. -/
theorem Serves.rename_spec (hserves : tree.Serves directory paths nameOf)
    {source target text : String} (hsource : source ∈ paths)
    (htarget : target ∈ paths) (hapart : nameOf source ≠ nameOf target)
    (hfile : tree.entries.get? (nameOf source) = some (.file text)) :
    ∃ after, tree.rename source target = (true, after) ∧
      after.Serves directory paths nameOf ∧ ∀ key, after.entries.get? key =
        if key = nameOf source then none
        else if key = nameOf target then some (.file text)
        else tree.entries.get? key := by
  have hread : tree.read source = .content text :=
    (hserves.contents_eq_content_iff hsource).mpr hfile
  obtain ⟨written, hwrite, hwritten, hwrittenEntry⟩ :=
    hserves.write_spec htarget text
  have hstill : written.entries.get? (nameOf source) = some (.file text) := by
    rw [hwrittenEntry, if_neg hapart, hfile]
  obtain ⟨after, hremove, hafter, hentry⟩ := hwritten.remove_spec hsource hstill
  have hplaces : tree.newPlace? source ≠ tree.newPlace? target := by
    obtain ⟨sourcePlace, hsourcePlace, hsourceName, -⟩ :=
      hserves.place source hsource
    obtain ⟨targetPlace, htargetPlace, htargetName, -⟩ :=
      hserves.place target htarget
    rw [hsourcePlace, htargetPlace]
    rintro ⟨rfl⟩
    exact hapart (hsourceName.symm.trans htargetName)
  refine ⟨after, ?_, hafter, fun key => ?_⟩
  · simp only [rename, hread, hwrite, if_neg hplaces, hremove]
  · rw [hentry, hwrittenEntry]

/-- A tree keeps the files of paths that lead to different places. -/
theorem keeps
    (hdistinct : ∀ path ∈ paths, ∀ other ∈ paths, nameOf path = nameOf other →
      path = other) :
    fileSystem.Keeps directory paths (Serves directory paths nameOf) where
  read _ _ := rfl
  makeDirectory := by
    intro tree hserves
    exact ⟨tree, hserves.makeDirectory_eq, hserves, fun _ _ => rfl⟩
  write := by
    intro tree path text hserves hpath
    obtain ⟨after, hwrite, hafter, hentry⟩ := hserves.write_spec hpath text
    refine ⟨after, hwrite, hafter, ?_, ?_⟩
    · rw [hafter.contents_eq_content_iff hpath, hentry, if_pos rfl]
    · intro other hother hne
      have hname : nameOf other ≠ nameOf path :=
        fun hsame => hne (hdistinct other hother path hpath hsame)
      exact hserves.contents_congr hafter hother (by rw [hentry, if_neg hname])
  rename := by
    intro tree source target text hserves hsource htarget hne hcontent
    have hapart : nameOf source ≠ nameOf target :=
      fun hsame => hne (hdistinct source hsource target htarget hsame)
    rw [hserves.contents_eq_content_iff hsource] at hcontent
    obtain ⟨after, hrename, hafter, hentry⟩ :=
      hserves.rename_spec hsource htarget hapart hcontent
    refine ⟨after, hrename, hafter, ?_, ?_, ?_⟩
    · rw [hafter.contents_eq_content_iff htarget, hentry, if_neg hapart.symm,
        if_pos rfl]
    · exact hafter.contents_eq_missing hsource (by rw [hentry, if_pos rfl])
    · intro other hother hnotSource hnotTarget
      have hfirst : nameOf other ≠ nameOf source :=
        fun hsame => hnotSource (hdistinct other hother source hsource hsame)
      have hsecond : nameOf other ≠ nameOf target :=
        fun hsame => hnotTarget (hdistinct other hother target htarget hsame)
      exact hserves.contents_congr hafter hother
        (by rw [hentry, if_neg hfirst, if_neg hsecond])

end Keeps

end ClusterTick.FileTree
