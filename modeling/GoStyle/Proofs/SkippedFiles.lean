import Mathlib.Data.List.Perm.Basic
import GoStyle.Proofs.AllOrNothing
import GoStyle.Proofs.SettingsErasure

/-!
# Skipped files

A Go file that a check of directories leaves out, or reads and cannot analyse, has no part in the
outcome. Without it a recursive target may lose directories in which it was the only Go file, and
list the others in another order (`Workdir.exists_dropped`), but each directory gives the same
packages (`Workdir.surveyedIn_erase`) and no other trouble (`Workdir.readsIn_erase`). So both checks
fail, or both report the same problems on the same number of files.
-/

namespace GoStyle

/-- Whether two reports tell the same, maybe in another order. -/
def Report.Agrees (r r' : Report) : Prop :=
  r'.filesChecked = r.filesChecked ∧ r'.problems.Perm r.problems

namespace Workdir

variable {w : Workdir} {m : Location}

/-! ## Directories -/

/-- The directories that arguments stand for which name directories. -/
def dirsOf (w : Workdir) (args : List String) : List Path :=
  if args.isEmpty then [⟨"."⟩] else args.flatMap fun arg => (w.target arg).dirPaths

/-- An argument that names a directory stands for the directories listed below one, or for one. -/
theorem target_cases {arg : String} (h : w.NamesDirs arg) :
    (∃ root, w.isDir ⟨root⟩ ∧
      ∀ w' : Workdir, w'.isDir = w.isDir → w'.target arg = .dirs (w'.packageDirs ⟨root⟩)) ∨
    ∀ w' : Workdir, w'.isDir = w.isDir → w'.target arg = .dirs [⟨arg⟩] := by
  cases hroot : (recursiveRoot? arg).filter fun root => w.isDir ⟨root⟩ with
  | some root =>
    refine Or.inl ⟨root, (Option.filter_eq_some_iff.mp hroot).2, fun w' hw' => ?_⟩
    rw [target, hw', hroot]
  | none =>
    have hdir : w.isDir ⟨arg⟩ := by
      rcases h with h | ⟨root, rfl, h⟩
      · exact h
      · rw [recursiveRoot?_append, Option.filter_some, if_pos h] at hroot
        cases hroot
    refine Or.inr fun w' hw' => ?_
    rw [target, hw', hroot]
    dsimp only
    rw [if_pos hdir]

theorem targets?_of_namesDirs {args : List String} (h : ∀ arg ∈ args, w.NamesDirs arg) :
    w.targets? args = some (.dirs (w.dirsOf args)) := by
  by_cases hnil : args = []
  · rw [hnil]
    rfl
  · rw [dirsOf, if_neg (by simpa using hnil)]
    refine targets?_of_dirs hnil fun arg harg => ?_
    rcases target_cases (h arg harg) with ⟨root, -, htarget⟩ | htarget
    · exact ⟨_, htarget w rfl⟩
    · exact ⟨_, htarget w rfl⟩

/-- Without the file a recursive target loses at most directories without other Go files. -/
theorem exists_dropped_packageDirs (hm : w.tree.isFile m) {root : Path} (hroot : w.isDir root) :
    ∃ dropped, ((w.erase m).packageDirs root ++ dropped).Perm (w.packageDirs root) ∧
      ∀ dir ∈ dropped, (w.erase m).goFilesIn dir = .ok [] := by
  have hroot' : (w.erase m).isDir root := by rwa [isDir_erase hm]
  obtain ⟨l, hlocate, hdir⟩ := isDir_iff.mp hroot
  obtain ⟨l', hlocate', hdir'⟩ := isDir_iff.mp hroot'
  obtain rfl : l = l' := by
    have hl' := ((locate_erase hm).mp hlocate').1
    exact Except.ok.inj (hlocate.symm.trans hl')
  obtain ⟨inners, hdirs, hnodup, hmem⟩ := exists_listed_dirs hlocate hdir
  obtain ⟨inners', hdirs', hnodup', hmem'⟩ := exists_listed_dirs hlocate' hdir'
  let holdsOther : List String → Bool := fun inner =>
    !((w.erase m).tree.goNames (l ++ inner)).isEmpty
  have hkept : inners'.Perm (inners.filter holdsOther) := by
    rw [List.perm_ext_iff_of_nodup hnodup' (hnodup.filter _)]
    intro inner
    have hsub : (w.erase m).tree.goNames (l ++ inner) ≠ [] → w.tree.goNames (l ++ inner) ≠ [] := by
      intro hother hnil
      rw [erase, Tree.goNames_erase, hnil] at hother
      exact hother rfl
    rw [hmem', List.mem_filter, hmem, Bool.not_eq_true', List.isEmpty_eq_false_iff, and_assoc]
    exact and_congr_right fun _ => (and_iff_right_of_imp hsub).symm
  refine ⟨(inners.filter fun inner => !holdsOther inner).map root.dirBelow, ?_, fun dir h => ?_⟩
  · rw [hdirs, hdirs', ← List.map_append]
    exact ((hkept.append_right _).trans (List.filter_append_perm holdsOther inners)).map _
  · obtain ⟨inner, hinner, rfl⟩ := List.mem_map.mp h
    obtain ⟨hinner, hnone⟩ := List.mem_filter.mp hinner
    obtain ⟨name, hname⟩ := List.exists_mem_of_ne_nil _ ((hmem inner).mp hinner).2
    have hin : w.tree.isDir (l ++ inner) :=
      Tree.isDir_of_has_concat (Tree.has_of_isFile (Tree.mem_goNames.mp hname).1)
    rw [goFilesIn_eq (locate_dirBelow (w := w.erase m) hlocate' hin) hin]
    have hnil : (w.erase m).tree.goNames (l ++ inner) = [] := by simpa [holdsOther] using hnone
    rw [hnil, List.map_nil]

/-- Without the file arguments stand for the same directories, in any order, but for some without
other Go files. -/
theorem exists_dropped (hm : w.tree.isFile m) {args : List String}
    (hargs : ∀ arg ∈ args, w.NamesDirs arg) :
    ∃ dropped, ((w.erase m).dirsOf args ++ dropped).Perm (w.dirsOf args) ∧
      ∀ dir ∈ dropped, (w.erase m).goFilesIn dir = .ok [] := by
  have hsame : (w.erase m).isDir = w.isDir := funext fun p => isDir_erase hm
  have hone : ∀ arg, w.NamesDirs arg →
      ∃ dropped, (((w.erase m).target arg).dirPaths ++ dropped).Perm (w.target arg).dirPaths ∧
        ∀ dir ∈ dropped, (w.erase m).goFilesIn dir = .ok [] := by
    intro arg harg
    rcases target_cases harg with ⟨root, hroot, htarget⟩ | htarget
    · rw [htarget _ hsame, htarget w rfl]
      exact exists_dropped_packageDirs hm hroot
    · rw [htarget _ hsame, htarget w rfl]
      exact ⟨[], by simp⟩
  by_cases hnil : args = []
  · subst hnil
    exact ⟨[], by simp [dirsOf]⟩
  · have hne : ¬args.isEmpty = true := by simpa using hnil
    rw [dirsOf, dirsOf, if_neg hne, if_neg hne]
    clear hnil hne
    induction args with
    | nil => exact ⟨[], by simp⟩
    | cons arg args ih =>
      obtain ⟨hfirst, hrest⟩ := List.forall_mem_cons.mp hargs
      obtain ⟨dropped, hperm, hempty⟩ := hone arg hfirst
      obtain ⟨more, hmore, hnone⟩ := ih hrest
      refine ⟨dropped ++ more, ?_, List.forall_mem_append.mpr ⟨hempty, hnone⟩⟩
      rw [List.flatMap_cons, List.flatMap_cons]
      refine List.Perm.trans ?_ (hperm.append hmore)
      rw [List.append_assoc, List.append_assoc]
      refine List.Perm.append_left _ ?_
      rw [← List.append_assoc, ← List.append_assoc]
      exact List.perm_append_comm.append_right _

/-! ## What is listed and read in a directory -/

variable {excludes : List Glob} {dir : Path} {paths : List Path}

theorem exists_goFilesIn_iff : (∃ paths, w.goFilesIn dir = .ok paths) ↔ w.isDir dir := by
  rw [goFilesIn, isDir]
  cases w.locate dir with
  | error e => simp
  | ok l => by_cases h : w.tree.isDir l <;> simp [h]

theorem exists_of_goFilesIn (h : w.goFilesIn dir = .ok paths) :
    ∃ l, w.locate dir = .ok l ∧ w.tree.isDir l ∧ paths = (w.tree.goNames l).map dir.join := by
  obtain ⟨l, hl, hdir⟩ := isDir_iff.mp (exists_goFilesIn_iff.mp ⟨paths, h⟩)
  rw [goFilesIn_eq hl hdir] at h
  exact ⟨l, hl, hdir, (Except.ok.inj h).symm⟩

theorem exists_locate_of_listed (h : w.goFilesIn dir = .ok paths) {p : Path} (hp : p ∈ paths) :
    ∃ l, w.locate p = .ok l := by
  obtain ⟨l, hl, -, rfl⟩ := exists_of_goFilesIn h
  obtain ⟨name, hname, rfl⟩ := List.mem_map.mp hp
  exact ⟨_, locate_of_mem_goNames hl hname⟩

/-- Without the file a directory lists the others as before. -/
theorem goFilesIn_erase (hm : w.tree.isFile m) (h : w.goFilesIn dir = .ok paths) :
    (w.erase m).goFilesIn dir = .ok (paths.filter fun p => w.locate p ≠ .ok m) := by
  obtain ⟨l, hl, hdir, rfl⟩ := exists_of_goFilesIn h
  have hne := Tree.ne_of_isDir_of_isFile hdir hm
  rw [goFilesIn_eq ((locate_erase hm).mpr ⟨hl, hne⟩) hdir, erase, Tree.goNames_erase,
    List.filter_map]
  refine congrArg (fun names => Except.ok (List.map dir.join names)) ?_
  refine List.filter_congr fun name hname => ?_
  rw [Function.comp_apply, locate_of_mem_goNames hl hname, Bool.eq_iff_iff, bne_iff_ne,
    decide_eq_true_iff, ne_eq, ne_eq, Except.ok.injEq]

/-- Whether the file at a location is skipped wherever it is listed in directories: it is left out,
or read and cannot be analysed. -/
def Skips (w : Workdir) (excludes : List Glob) (dirs : List Path) (m : Location) : Prop :=
  ∀ dir ∈ dirs, ∀ paths, w.goFilesIn dir = .ok paths → ∀ p ∈ paths, w.locate p = .ok m →
    isExcluded excludes p ∨ ∃ text e, w.read p = .ok text ∧ SourceFile.ofText p text = .error e

/-- Whether a directory can be listed and the sources in it read. -/
def ReadsIn (w : Workdir) (excludes : List Glob) (dir : Path) : Prop :=
  (∃ paths, w.goFilesIn dir = .ok paths) ∧ ∀ p ∈ w.keptIn excludes dir, ∃ text, w.read p = .ok text

theorem exists_readTrouble_iff {dirs : List Path} :
    (∀ fault, ¬w.ReadTrouble excludes (.dirs dirs) fault) ↔
      ∀ dir ∈ dirs, w.ReadsIn excludes dir := by
  constructor
  · intro h dir hdir
    constructor
    · cases hlist : w.goFilesIn dir with
      | ok paths => exact ⟨paths, rfl⟩
      | error fault => exact absurd (.unlisted rfl hdir hlist) (h fault)
    · intro p hp
      cases hread : w.read p with
      | ok text => exact ⟨text, rfl⟩
      | error e => exact absurd (.unread (List.mem_flatMap.mpr ⟨dir, hdir, hp⟩) hread) (h _)
  · intro h fault htrouble
    cases htrouble with
    | unlisted heq hdir hlist =>
      obtain rfl := Targets.dirs.inj heq
      obtain ⟨paths, hpaths⟩ := (h _ hdir).1
      cases hpaths.symm.trans hlist
    | unread hp hread =>
      obtain ⟨dir, hdir, hp⟩ := List.mem_flatMap.mp hp
      obtain ⟨text, htext⟩ := (h dir hdir).2 _ hp
      cases htext.symm.trans hread

theorem keptIn_of_goFilesIn (h : w.goFilesIn dir = .ok paths) :
    w.keptIn excludes dir = paths.filter fun p => !isExcluded excludes p := by
  rw [keptIn, h]

/-- A directory without Go files gives nothing to read and no packages. -/
theorem of_goFilesIn_nil (h : w.goFilesIn dir = .ok []) :
    w.ReadsIn excludes dir ∧ w.surveyedIn excludes dir = [] := by
  have hkept : w.keptIn excludes dir = [] := keptIn_of_goFilesIn h
  refine ⟨⟨⟨[], h⟩, fun p hp => ?_⟩, ?_⟩
  · rw [hkept] at hp
    cases hp
  · rw [surveyedIn, hkept]
    rfl

theorem parsed?_congr {w' : Workdir} {p : Path} (h : w'.read p = w.read p) :
    w'.parsed? p = w.parsed? p := by
  rw [parsed?, parsed?, h]

/-- Without a file that is skipped a directory can be read if it could be before. -/
theorem readsIn_erase {dirs : List Path} (hm : w.tree.isFile m) (hskip : w.Skips excludes dirs m)
    (hdir : dir ∈ dirs) : (w.erase m).ReadsIn excludes dir ↔ w.ReadsIn excludes dir := by
  by_cases hlisted : w.isDir dir
  · obtain ⟨paths, hpaths⟩ := exists_goFilesIn_iff.mpr hlisted
    have hpaths' := goFilesIn_erase hm hpaths
    rw [ReadsIn, ReadsIn, keptIn_of_goFilesIn hpaths, keptIn_of_goFilesIn hpaths',
      exists_goFilesIn_iff, exists_goFilesIn_iff, isDir_erase hm]
    refine and_congr_right fun _ => ?_
    simp only [List.mem_filter, and_imp, decide_eq_true_iff]
    refine forall₂_congr fun p hp => ?_
    obtain ⟨l, hl⟩ := exists_locate_of_listed hpaths hp
    by_cases hpm : w.locate p = .ok m
    · have hskipped := hskip dir hdir paths hpaths p hp hpm
      refine iff_of_true (fun hne => absurd hpm hne) fun hkept => ?_
      rcases hskipped with hexcluded | ⟨text, e, htext, -⟩
      · rw [hexcluded] at hkept
        cases hkept
      · exact ⟨text, htext⟩
    · have hne : l ≠ m := fun heq => hpm (heq ▸ hl)
      rw [read_erase hm hl hne]
      exact forall_prop_of_true hpm
  · refine iff_of_false (fun h => hlisted ?_) fun h => hlisted (exists_goFilesIn_iff.mp h.1)
    rw [← isDir_erase hm]
    exact exists_goFilesIn_iff.mp h.1

/-- Without a file that is skipped a directory gives the same packages. -/
theorem surveyedIn_erase {dirs : List Path} (hm : w.tree.isFile m)
    (hskip : w.Skips excludes dirs m) (hdir : dir ∈ dirs) (hlisted : w.isDir dir) :
    (w.erase m).surveyedIn excludes dir = w.surveyedIn excludes dir := by
  obtain ⟨paths, hpaths⟩ := exists_goFilesIn_iff.mpr hlisted
  have hpaths' := goFilesIn_erase hm hpaths
  have hparsed : ((w.erase m).keptIn excludes dir).filterMap (w.erase m).parsed? =
      (w.keptIn excludes dir).filterMap w.parsed? := by
    rw [keptIn_of_goFilesIn hpaths, keptIn_of_goFilesIn hpaths', List.filter_filter,
      List.filterMap_filter, List.filterMap_filter]
    refine List.filterMap_congr fun p hp => ?_
    obtain ⟨l, hl⟩ := exists_locate_of_listed hpaths hp
    by_cases hpm : w.locate p = .ok m
    · rw [if_neg (by simp [hpm])]
      rcases hskip dir hdir paths hpaths p hp hpm with hexcluded | ⟨text, e, htext, he⟩
      · rw [if_neg (by simp [hexcluded])]
      · have hnone : w.parsed? p = none := by
          rw [parsed?, htext]
          dsimp only
          rw [he]
        rw [hnone, ite_self]
    · have hne : l ≠ m := fun heq => hpm (heq ▸ hl)
      rw [parsed?_congr (read_erase hm hl hne)]
      simp [hpm]
  rw [surveyedIn, hparsed, surveyedIn]

/-! ## Checks of the same packages -/

variable {choice : ConfigChoice} {o : CheckOptions}

/-- A check has a report exactly if settings and targets are known, the sources can be read and no
package is refused. -/
theorem result_check_eq_ok_iff {r : Report} : (w.check choice o).result = .ok r ↔
    ∃ excludes l targets reports, w.Settles choice o excludes l ∧
      w.targets? o.paths = some targets ∧ (∀ fault, ¬w.ReadTrouble excludes targets fault) ∧
      List.Forall₂ (fun files r => l.lint files = .ok r) (w.surveyed excludes targets) reports ∧
      r = Report.concat reports := by
  constructor
  · intro h
    rcases w.check_cases choice o with ⟨e, -, he⟩ | ⟨hnone, excludes, l, targets, reports,
      hsettles, htargets, hlint, hresult⟩
    · cases h.symm.trans he
    · exact ⟨excludes, l, targets, reports, hsettles, htargets,
        fun fault hread => hnone _ (.source hsettles htargets hread), hlint,
        Except.ok.inj (h.symm.trans hresult)⟩
  · rintro ⟨excludes, l, targets, reports, hsettles, htargets, hread, hlint, rfl⟩
    rw [result_check_of_settles hsettles htargets]
    rcases w.packages_cases excludes targets with ⟨-, hpackages⟩ | ⟨fault, hfault, -⟩
    · rw [Noted.result_bind_ok hpackages]
      rcases l.checkPackages_cases (w.surveyed excludes targets) with
        ⟨reports', hlint', hresult⟩ | ⟨files, hfiles, e, he, -⟩
      · have hunique : Relator.RightUnique fun files r => l.lint files = .ok r :=
          fun files r r' hr hr' => Except.ok.inj (hr.symm.trans hr')
        rwa [List.right_unique_forall₂' hunique hlint hlint']
      · obtain ⟨r, -, hr⟩ := exists_of_mem_forall₂ hlint hfiles
        cases hr.symm.trans he
    · exact absurd hfault (hread fault)

/-- The reports on the same packages in another order agree. -/
theorem exists_agrees {l : Linter} {packages packages' : List (List SourceFile)}
    {reports : List Report}
    (h : List.Forall₂ (fun files r => l.lint files = .ok r) packages reports)
    (hperm : packages'.Perm packages) : ∃ reports',
      List.Forall₂ (fun files r => l.lint files = .ok r) packages' reports' ∧
        (Report.concat reports).Agrees (Report.concat reports') := by
  obtain ⟨reports', hlint, hreports⟩ := List.perm_comp_forall₂ hperm h
  exact ⟨reports', hlint, (hreports.map _).foldr_eq _, hreports.flatMap_right _⟩

/-- Where settings are the same, the second check can read its sources if the first can, and they
are then the same packages in another order, the second check has a report that agrees with that of
the first. -/
theorem exists_result_check {w w' : Workdir} {targets targets' : Targets}
    (hsettles : ∀ excludes l, w.Settles choice o excludes l → w'.Settles choice o excludes l)
    (htargets : w.targets? o.paths = some targets) (htargets' : w'.targets? o.paths = some targets')
    (hsame : ∀ excludes l, w.Settles choice o excludes l →
      (∀ fault, ¬w.ReadTrouble excludes targets fault) →
        (∀ fault, ¬w'.ReadTrouble excludes targets' fault) ∧
          (w'.surveyed excludes targets').Perm (w.surveyed excludes targets))
    {r : Report} (h : (w.check choice o).result = .ok r) :
    ∃ r', (w'.check choice o).result = .ok r' ∧ r.Agrees r' := by
  obtain ⟨excludes, l, found, reports, hs, hfound, hread, hlint, rfl⟩ := result_check_eq_ok_iff.mp h
  obtain rfl := Option.some.inj (htargets.symm.trans hfound)
  obtain ⟨hread', hperm⟩ := hsame excludes l hs hread
  obtain ⟨reports', hlint', hagrees⟩ := exists_agrees hlint hperm
  exact ⟨_, result_check_eq_ok_iff.mpr
    ⟨excludes, l, targets', reports', hsettles excludes l hs, htargets', hread', hlint', rfl⟩,
    hagrees⟩

/-- A check of targets of one kind that fails has exit status 1. -/
theorem exitCode_of_error {targets : Targets} (htargets : w.targets? o.paths = some targets)
    {e : Failure} (h : (w.check choice o).result = .error e) :
    (w.runCheck choice o).exitCode = 1 := by
  rw [runCheck_of_error h]
  rcases e.report_cases with ⟨rfl, -⟩ | ⟨hcode, -⟩
  · rcases w.check_cases choice o with ⟨e, htrouble, he⟩ | ⟨-, _, _, _, _, -, -, -, hok⟩
    · obtain rfl := Except.error.inj (h.symm.trans he)
      cases htargets.symm.trans htrouble.targets?_eq_none
    · cases h.symm.trans hok
  · exact hcode

/-- Checks whose reports agree have the same exit status. -/
theorem exitCode_of_agrees {w' : Workdir} {r r' : Report} (hagrees : r.Agrees r')
    (h : (w.check choice o).result = .ok r) (h' : (w'.check choice o).result = .ok r') :
    (w'.runCheck choice o).exitCode = (w.runCheck choice o).exitCode := by
  have hclean : r'.isClean = r.isClean := by
    rw [Report.isClean, Report.isClean, Bool.eq_iff_iff, List.isEmpty_iff, List.isEmpty_iff]
    exact ⟨fun hnil => (hnil ▸ hagrees.2).symm.eq_nil, fun hnil => (hnil ▸ hagrees.2).eq_nil⟩
  rw [runCheck_of_ok h, runCheck_of_ok h', Outcome.ofReport, Outcome.ofReport, hclean]

/-! ## Checks without a skipped file -/

/-- Without a skipped file the sources of a check can be read if they could be before, and are then
the same packages in another order. -/
theorem sources_erase {args : List String} (hm : w.tree.isFile m)
    (hargs : ∀ arg ∈ args, w.NamesDirs arg) (hskip : w.Skips excludes (w.dirsOf args) m) :
    ((∀ fault, ¬(w.erase m).ReadTrouble excludes (.dirs ((w.erase m).dirsOf args)) fault) ↔
      ∀ fault, ¬w.ReadTrouble excludes (.dirs (w.dirsOf args)) fault) ∧
    ((∀ fault, ¬w.ReadTrouble excludes (.dirs (w.dirsOf args)) fault) →
      ((w.erase m).surveyed excludes (.dirs ((w.erase m).dirsOf args))).Perm
        (w.surveyed excludes (.dirs (w.dirsOf args)))) := by
  obtain ⟨dropped, hperm, hempty⟩ := exists_dropped hm hargs
  constructor
  · rw [exists_readTrouble_iff, exists_readTrouble_iff]
    constructor
    · intro h dir hdir
      rw [← readsIn_erase hm hskip hdir]
      rcases List.mem_append.mp (hperm.mem_iff.mpr hdir) with hkept | hdropped
      · exact h dir hkept
      · exact (of_goFilesIn_nil (hempty dir hdropped)).1
    · intro h dir hdir
      have hbefore := hperm.mem_iff.mp (List.mem_append_left dropped hdir)
      exact (readsIn_erase hm hskip hbefore).mpr (h dir hbefore)
  · intro hread
    rw [exists_readTrouble_iff] at hread
    have hsame : (w.dirsOf args).flatMap ((w.erase m).surveyedIn excludes) =
        (w.dirsOf args).flatMap (w.surveyedIn excludes) :=
      List.flatMap_congr fun dir hdir =>
        surveyedIn_erase hm hskip hdir (exists_goFilesIn_iff.mp (hread dir hdir).1)
    have hnone : dropped.flatMap ((w.erase m).surveyedIn excludes) = [] :=
      List.flatMap_eq_nil_iff.mpr fun dir hdir => (of_goFilesIn_nil (hempty dir hdir)).2
    have hall := hperm.flatMap_right ((w.erase m).surveyedIn excludes)
    rwa [List.flatMap_append, hnone, List.append_nil, hsame] at hall

theorem namesDirs_erase (hm : w.tree.isFile m) {arg : String} (h : w.NamesDirs arg) :
    (w.erase m).NamesDirs arg := by
  unfold NamesDirs at h ⊢
  simpa only [isDir_erase hm] using h

end Workdir

/-- A working directory with mocks that its configuration leaves out, one of which is no text. -/
def mockedDir : Workdir :=
  ⟨⟨[["mocks"]],
    [⟨["golint.toml"], some "[discovery]\nexclude = [\"**/mocks/**\"]\n"⟩,
      ⟨["a.go"], some "package a\n"⟩, ⟨["mocks", "b.go"], none⟩], by decide⟩, []⟩

end GoStyle
