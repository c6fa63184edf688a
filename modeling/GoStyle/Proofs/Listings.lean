import Mathlib.Data.List.Nodup
import GoStyle.Proofs.Distinct
import GoStyle.Proofs.Locating

/-!
# What is listed

The Go files that are listed in a directory are the entries of the tree that are Go files by name
(`Workdir.goFilesIn_eq`), each under the directory's path and once (`Tree.nodup_goNames`). The
directories that are listed below a root are known by the names that lead to them: every directory
that holds a Go file and is not left out has its names listed once, and no other
(`Workdir.exists_listed_dirs`). `Path.dirBelow` is the path it is listed under.
-/

namespace GoStyle

/-! ## Names that lead to files -/

theorem Location.below?_eq_some_iff : ∀ {l m : Location} {names : List String},
    l.below? m = some names ↔ m = l ++ names
  | [], m, names => by simp [Location.below?]
  | n :: l, [], names => by simp [Location.below?]
  | n :: l, k :: m, names => by
    rw [Location.below?, List.cons_append, List.cons_eq_cons]
    split_ifs with heq
    · rw [Location.below?_eq_some_iff]
      exact (and_iff_right heq.symm).symm
    · exact iff_of_false (by simp) fun h => heq h.1.symm

/-- The path under which the directory that names lead to from a root is listed. -/
def Path.dirBelow (root : Path) (inner : List String) : Path :=
  (root.joinAll inner).trimmed

/-- Whether a name is that of a Go file. -/
def isGoName (name : String) : Bool :=
  extensionOf? name == some "go"

namespace Tree

variable {t : Tree} {l : Location} {name : String} {names : List String}

theorem mem_filesUnder : names ∈ t.filesUnder l ↔ t.isFile (l ++ names) := by
  rw [filesUnder, List.mem_mergeSort, List.mem_filterMap, isFile_iff]
  simp only [Location.below?_eq_some_iff]

theorem nodup_filesUnder (t : Tree) (l : Location) : (t.filesUnder l).Nodup := by
  have hlocations : (t.files.map FileEntry.location).Nodup :=
    (List.nodup_append.mp t.sound.1).2.1
  have hbelow : ((t.files.map FileEntry.location).filterMap l.below?).Nodup := by
    refine hlocations.filterMap fun a b names ha hb => ?_
    rw [Option.mem_def, Location.below?_eq_some_iff] at ha hb
    rw [ha, hb]
  rw [List.filterMap_map] at hbelow
  exact (List.mergeSort_perm _ _).nodup_iff.mpr hbelow

theorem mem_filesIn : name ∈ t.filesIn l ↔ t.isFile (l ++ [name]) := by
  rw [filesIn, List.mem_filterMap, ← mem_filesUnder]
  constructor
  · rintro ⟨names, hnames, hone⟩
    split at hone
    · obtain rfl := Option.some.inj hone
      exact hnames
    · cases hone
  · exact fun h => ⟨[name], h, rfl⟩

theorem nodup_filesIn (t : Tree) (l : Location) : (t.filesIn l).Nodup := by
  refine (t.nodup_filesUnder l).filterMap fun a b name ha hb => ?_
  split at ha
  · split at hb
    · rw [Option.mem_some_iff.mp ha, Option.mem_some_iff.mp hb]
    · cases hb
  · cases ha

/-- The names of the Go files directly in a directory. -/
def goNames (t : Tree) (l : Location) : List String :=
  (t.filesIn l).filter isGoName

theorem mem_goNames : name ∈ t.goNames l ↔ t.isFile (l ++ [name]) ∧ isGoName name := by
  rw [goNames, List.mem_filter, mem_filesIn]

theorem nodup_goNames (t : Tree) (l : Location) : (t.goNames l).Nodup :=
  (t.nodup_filesIn l).filter isGoName

end Tree

/-! ## Go files in a directory -/

namespace Workdir

variable {w : Workdir} {root dir : Path} {l : Location} {name : String} {inner : List String}

theorem isGo_joined (hne : dir.text ≠ "") (hname : isEntryName name) :
    (dir.join name).isGo = isGoName name := by
  rw [Bool.eq_iff_iff, Path.isGo_join hne hname, isGoName, beq_iff_eq]

/-- What is listed in a directory are its Go files, in the order of their names. -/
theorem goFilesIn_eq (hlocate : w.locate dir = .ok l) (hdir : w.tree.isDir l) :
    w.goFilesIn dir = .ok ((w.tree.goNames l).map dir.join) := by
  have hne := text_ne_of_locate hlocate
  have hgo : ∀ name ∈ w.tree.filesIn l, (Path.isGo ∘ dir.join) name = isGoName name := by
    intro name hname
    have hfile := Tree.mem_filesIn.mp hname
    exact isGo_joined hne (Tree.isEntryName_of_has (Tree.has_of_isFile hfile) (by simp))
  rw [goFilesIn, hlocate]
  dsimp only
  rw [if_pos hdir, List.filter_map, List.filter_congr hgo, Tree.goNames]

/-- A listed file is found in the directory. -/
theorem locate_of_mem_goNames (hlocate : w.locate dir = .ok l) (hname : name ∈ w.tree.goNames l) :
    w.locate (dir.join name) = .ok (l ++ [name]) :=
  locate_join hlocate (Tree.has_of_isFile (Tree.mem_goNames.mp hname).1)

/-! ## Directories below a root -/

theorem locate_dirBelow (hlocate : w.locate root = .ok l) (hdir : w.tree.isDir (l ++ inner)) :
    w.locate (root.dirBelow inner) = .ok (l ++ inner) :=
  locate_trimmed (locate_joinAll hlocate (Tree.has_of_isDir hdir)) hdir

theorem components_dirBelow (hne : root.text ≠ "") (h : ∀ name ∈ inner, isEntryName name) :
    (root.dirBelow inner).components = root.components ++ inner.map Component.name := by
  rw [Path.dirBelow, Path.components_trimmed (Path.text_joinAll_ne hne h),
    Path.components_joinAll hne h]

/-- Directories that other names lead to are listed under other paths. -/
theorem eq_of_same_dirBelow {inner' : List String} (hne : root.text ≠ "")
    (h : ∀ name ∈ inner, isEntryName name) (h' : ∀ name ∈ inner', isEntryName name)
    (hsame : (root.dirBelow inner).same (root.dirBelow inner')) : inner = inner' := by
  rw [Path.same, beq_iff_eq, components_dirBelow hne h, components_dirBelow hne h',
    List.append_cancel_left_eq] at hsame
  exact List.map_injective_iff.mpr (fun a b hab => Component.name.inj hab) hsame

/-- Names lead from a directory to files by way of other names, and the last is that of the file. -/
theorem exists_concat_of_mem_filesUnder {names : List String} (hdir : w.tree.isDir l)
    (h : names ∈ w.tree.filesUnder l) : ∃ inner name, names = inner ++ [name] ∧
      w.tree.isFile (l ++ inner ++ [name]) ∧ (∀ n ∈ inner, isEntryName n) ∧ isEntryName name := by
  have hfile := Tree.mem_filesUnder.mp h
  rcases List.eq_nil_or_concat names with rfl | ⟨inner, name, rfl⟩
  · rw [List.append_nil] at hfile
    exact absurd rfl (Tree.ne_of_isDir_of_isFile hdir hfile)
  · rw [List.concat_eq_append] at hfile ⊢
    have hnames : ∀ n ∈ inner ++ [name], isEntryName n := fun n hn =>
      Tree.isEntryName_of_has (Tree.has_of_isFile hfile) (List.mem_append_right l hn)
    refine ⟨inner, name, rfl, by rwa [List.append_assoc], fun n hn => ?_, ?_⟩
    · exact hnames n (List.mem_append_left _ hn)
    · exact hnames name (by simp)

/-- The names that lead to the directories of the Go files that are listed below a root, once for
each file. -/
def listedInners (w : Workdir) (root : Path) (l : Location) : List (List String) :=
  (((w.tree.filesUnder l).filter fun names => !names.dropLast.any isSkippedDir).filter
    fun names => (root.joinAll names).isGo).map List.dropLast

theorem mem_listedInners (hlocate : w.locate root = .ok l) (hdir : w.tree.isDir l) :
    inner ∈ w.listedInners root l ↔
      (∀ name ∈ inner, isSkippedDir name = false) ∧ w.tree.goNames (l ++ inner) ≠ [] := by
  have hne := text_ne_of_locate hlocate
  simp only [listedInners, List.mem_map, List.mem_filter]
  constructor
  · rintro ⟨names, ⟨⟨hmem, hskip⟩, hgo⟩, rfl⟩
    obtain ⟨inner, name, rfl, hfile, hinner, hname⟩ := exists_concat_of_mem_filesUnder hdir hmem
    rw [List.dropLast_concat] at hskip ⊢
    rw [Path.joinAll_concat, isGo_joined (Path.text_joinAll_ne hne hinner) hname] at hgo
    refine ⟨by simpa using hskip, List.ne_nil_of_mem (Tree.mem_goNames.mpr ⟨hfile, hgo⟩)⟩
  · rintro ⟨hskip, hgo⟩
    obtain ⟨name, hname⟩ := List.exists_mem_of_ne_nil _ hgo
    obtain ⟨hfile, hgo⟩ := Tree.mem_goNames.mp hname
    rw [List.append_assoc] at hfile
    have hmem := Tree.mem_filesUnder.mpr hfile
    have hentry : ∀ n ∈ inner ++ [name], isEntryName n := fun n hn =>
      Tree.isEntryName_of_has (Tree.has_of_isFile hfile) (List.mem_append_right l hn)
    refine ⟨inner ++ [name], ⟨⟨hmem, ?_⟩, ?_⟩, List.dropLast_concat⟩
    · rw [List.dropLast_concat]
      simpa using hskip
    · rw [Path.joinAll_concat, isGo_joined _ (hentry name (by simp)), hgo]
      exact Path.text_joinAll_ne hne fun n hn => hentry n (List.mem_append_left _ hn)

theorem filterMap_parent?_goFilesUnder (hlocate : w.locate root = .ok l)
    (hdir : w.tree.isDir l) : (w.goFilesUnder root).filterMap Path.parent? =
      (w.listedInners root l).map root.dirBelow := by
  have hne := text_ne_of_locate hlocate
  rw [goFilesUnder, hlocate, listedInners]
  dsimp only
  rw [List.filter_map, List.filterMap_map, List.map_map, ← List.filterMap_eq_map]
  refine List.filterMap_congr fun names hnames => ?_
  have hmem := List.mem_of_mem_filter (List.mem_of_mem_filter hnames)
  obtain ⟨inner, name, rfl, -, hinner, hname⟩ := exists_concat_of_mem_filesUnder hdir hmem
  rw [Function.comp_apply, Function.comp_apply, Function.comp_apply, Path.joinAll_concat,
    Path.parent?_join (Path.text_joinAll_ne hne hinner) hname, List.dropLast_concat, Path.dirBelow]

/-- No directory is listed twice, under any path. -/
theorem pairwise_packageDirs (w : Workdir) (root : Path) :
    (w.packageDirs root).Pairwise fun dir dir' => dir.same dir' = false := by
  refine (pairwise_distinctBy Path.same _).imp fun {dir dir'} h => ?_
  rwa [Path.same, BEq.comm]

/-- The directories at or below a root that are listed, each once, are those that hold a Go file
and are not left out. -/
theorem exists_listed_dirs (hlocate : w.locate root = .ok l) (hdir : w.tree.isDir l) :
    ∃ inners : List (List String), w.packageDirs root = inners.map root.dirBelow ∧
      inners.Nodup ∧ ∀ inner, inner ∈ inners ↔
        (∀ name ∈ inner, isSkippedDir name = false) ∧ w.tree.goNames (l ++ inner) ≠ [] := by
  have hne := text_ne_of_locate hlocate
  have hentry : ∀ inner ∈ w.listedInners root l, ∀ name ∈ inner, isEntryName name := by
    intro inner hinner name hname
    obtain ⟨-, hgo⟩ := (mem_listedInners hlocate hdir).mp hinner
    obtain ⟨file, hfile⟩ := List.exists_mem_of_ne_nil _ hgo
    exact Tree.isEntryName_of_has (Tree.has_of_isFile (Tree.mem_goNames.mp hfile).1)
      (List.mem_append_left _ (List.mem_append_right l hname))
  let sameDir := fun a b => (root.dirBelow a).same (root.dirBelow b)
  have hrefl : ∀ a, sameDir a a := fun a => beq_self_eq_true _
  have hsub := distinctBy_sublist sameDir (w.listedInners root l)
  refine ⟨distinctBy sameDir (w.listedInners root l), ?_, ?_, fun inner => ?_⟩
  · rw [packageDirs, filterMap_parent?_goFilesUnder hlocate hdir, distinctBy_map]
  · refine (pairwise_distinctBy sameDir _).imp fun {a b} hab heq => ?_
    rw [heq, hrefl] at hab
    cases hab
  · rw [← mem_listedInners hlocate hdir]
    refine ⟨fun h => hsub.subset h, fun h => ?_⟩
    obtain ⟨kept, hkept, hsame⟩ := exists_mem_distinctBy hrefl h
    rwa [eq_of_same_dirBelow hne (hentry inner h) (hentry kept (hsub.subset hkept)) hsame]

end Workdir

end GoStyle
