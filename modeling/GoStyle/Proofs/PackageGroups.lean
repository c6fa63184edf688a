import Mathlib.Data.List.Lex
import Mathlib.Data.Prod.Lex
import Mathlib.Data.String.Basic
import GoStyle.Proofs.Provenance
import GoStyle.Proofs.Surveys

/-!
# Files sorted into packages

Files are sorted into packages by directory and name (`SourceFile.packageKey`), directories being
compared by components. One more file changes the package that it belongs to or adds one where it is
due (`exists_addToPackage`), so packages stay in order, each of them the files with its key
(`Arranged`). What comes out of it is `SortedInto`: nothing is lost, and the files of a package
agree in what linters ask for, so that none refuses them. The packages of directories are made in
this way, and a check of directories does not fail for files of several packages
(`groupPackages_sorts`).
-/

namespace GoStyle

/-! ## Keys -/

/-- Components have keys of their own. -/
theorem Component.key_injective : Function.Injective Component.key := by
  have hcode : Function.Injective Char.toNat := Function.LeftInverse.injective Char.ofNat_toNat
  intro a b h
  cases a <;> cases b
  case name.name s t =>
    rw [String.toList_inj.mp (List.map_injective_iff.mpr hcode (List.cons_eq_cons.mp h).2)]
  all_goals cases h
  all_goals rfl

/-- Paths with the same components are those with one key. -/
theorem Path.same_iff {p q : Path} : p.same q ↔ p.key = q.key := by
  rw [Path.same, beq_iff_eq, Path.key, Path.key,
    (List.map_injective_iff.mpr Component.key_injective).eq_iff]

/-- The directory and the name of the package to which a file belongs. -/
def SourceFile.packageKey (f : SourceFile) : List (List ℕ) ×ₗ String :=
  toLex (f.dir.key, f.package.name)

/-- The directory and the name of a package. -/
def PackageFiles.key (g : PackageFiles) : List (List ℕ) ×ₗ String :=
  toLex (g.dir.key, g.name)

section Keys

variable {f f' : SourceFile} {g : PackageFiles}

theorem packageKey_eq_iff : f.packageKey = f'.packageKey ↔
    f.dir.same f'.dir ∧ f.package.name = f'.package.name := by
  rw [SourceFile.packageKey, SourceFile.packageKey, EmbeddingLike.apply_eq_iff_eq, Prod.mk.injEq,
    Path.same_iff]

theorem packageKey_lt_iff : f.packageKey < f'.packageKey ↔ f.dir.key < f'.dir.key ∨
    f.dir.same f'.dir ∧ f.package.name < f'.package.name := by
  rw [SourceFile.packageKey, SourceFile.packageKey, Prod.Lex.toLex_lt_toLex, Path.same_iff]

theorem holds_iff : g.holds f ↔ g.key = f.packageKey := by
  rw [PackageFiles.holds, Bool.and_eq_true, beq_iff_eq, Path.same_iff, PackageFiles.key,
    SourceFile.packageKey, EmbeddingLike.apply_eq_iff_eq, Prod.mk.injEq]

theorem after_iff : g.after f ↔ f.packageKey < g.key := by
  rw [PackageFiles.after, decide_eq_true_iff, PackageFiles.key, SourceFile.packageKey,
    Prod.Lex.toLex_lt_toLex]

end Keys

/-! ## One more file -/

/-- A file is put behind the others of its package or, if there are none, into a package of its own,
in any case between the packages before and behind its own. -/
theorem exists_addToPackage (f : SourceFile) : ∀ {gs : List PackageFiles},
    gs.Pairwise (fun g h => g.key < h.key) → ∃ before g after,
      addToPackage f gs = before ++ g :: after ∧ g.key = f.packageKey ∧
      (∀ h ∈ before, h.key < f.packageKey) ∧ (∀ h ∈ after, f.packageKey < h.key) ∧
      (gs = before ++ after ∧ g.files = [f] ∨
        ∃ others : PackageFiles, gs = before ++ others :: after ∧ others.key = f.packageKey ∧
          g.files = others.files ++ [f])
  | [], _ => ⟨[], _, [], rfl, rfl, by simp, by simp, Or.inl ⟨rfl, rfl⟩⟩
  | h :: gs, hordered => by
    obtain ⟨hfirst, hrest⟩ := List.pairwise_cons.mp hordered
    rw [addToPackage]
    split_ifs with hholds hafter
    · have hkey := holds_iff.mp hholds
      exact ⟨[], _, gs, rfl, hkey, by simp, fun h' hh' => hkey ▸ hfirst h' hh',
        Or.inr ⟨h, rfl, hkey, rfl⟩⟩
    · have hlt := after_iff.mp hafter
      refine ⟨[], _, h :: gs, rfl, rfl, by simp, fun h' hh' => ?_, Or.inl ⟨rfl, rfl⟩⟩
      rcases List.mem_cons.mp hh' with rfl | hh'
      · exact hlt
      · exact hlt.trans (hfirst h' hh')
    · have hlt : h.key < f.packageKey :=
        (lt_trichotomy h.key f.packageKey).resolve_right fun hge =>
          hge.elim (fun heq => hholds (holds_iff.mpr heq)) fun hlt => hafter (after_iff.mpr hlt)
      obtain ⟨before, g, after, hadd, hkey, hbefore, hbehind, hcases⟩ := exists_addToPackage f hrest
      refine ⟨h :: before, g, after, by rw [hadd, List.cons_append], hkey,
        List.forall_mem_cons.mpr ⟨hlt, hbefore⟩, hbehind, ?_⟩
      rcases hcases with ⟨rfl, hfiles⟩ | ⟨others, rfl, hothers, hfiles⟩
      · exact Or.inl ⟨rfl, hfiles⟩
      · exact Or.inr ⟨others, rfl, hothers, hfiles⟩

/-- Whether packages are some files, arranged by their keys. -/
structure Arranged (files : List SourceFile) (gs : List PackageFiles) : Prop where
  ordered : gs.Pairwise fun g h => g.key < h.key
  files_eq : ∀ g ∈ gs, g.files = files.filter fun f => f.packageKey = g.key
  ne_nil : ∀ g ∈ gs, g.files ≠ []
  perm : (gs.flatMap PackageFiles.files).Perm files

section Arranged

variable {files : List SourceFile} {gs : List PackageFiles} {f : SourceFile}

/-- Every file is in the package with its key. -/
theorem Arranged.exists_key (h : Arranged files gs) (hf : f ∈ files) :
    ∃ g ∈ gs, g.key = f.packageKey := by
  obtain ⟨g, hg, hfg⟩ := List.mem_flatMap.mp (h.perm.mem_iff.mpr hf)
  rw [h.files_eq g hg, List.mem_filter, decide_eq_true_iff] at hfg
  exact ⟨g, hg, hfg.2.symm⟩

/-- Packages stay arranged when one more file is put in. -/
theorem Arranged.addToPackage (h : Arranged files gs) (f : SourceFile) :
    Arranged (files ++ [f]) (addToPackage f gs) := by
  obtain ⟨before, g, after, hadd, hkey, hbefore, hafter, hcases⟩ := exists_addToPackage f h.ordered
  have hsub : (before ++ after).Sublist gs := by
    rcases hcases with ⟨rfl, -⟩ | ⟨others, rfl, -⟩
    · exact List.Sublist.refl _
    · exact (List.Sublist.refl before).append (List.sublist_cons_self others after)
  have hother : ∀ h' ∈ before ++ after, h'.key ≠ f.packageKey := by
    intro h' hh'
    rcases List.mem_append.mp hh' with hh' | hh'
    · exact (hbefore h' hh').ne
    · exact (hafter h' hh').ne'
  have hfiles : ∀ h' ∈ before ++ g :: after,
      h'.files = (files ++ [f]).filter fun f' => f'.packageKey = h'.key := by
    intro h' hh'
    have hmem : h' = g ∨ h' ∈ before ++ after := by simpa [or_left_comm] using hh'
    rw [List.filter_append, List.filter_singleton]
    rcases hmem with rfl | hh'
    · rw [decide_eq_true hkey.symm, cond_true, hkey]
      rcases hcases with ⟨hgs, hg⟩ | ⟨others, rfl, hsame, hg⟩
      · -- No file had the key, for all packages have other keys.
        rw [hg, List.filter_eq_nil_iff.mpr, List.nil_append]
        intro f' hf' heq
        obtain ⟨g', hg', hkey'⟩ := h.exists_key hf'
        exact hother g' (hgs ▸ hg') (hkey'.trans (of_decide_eq_true heq))
      · rw [hg, h.files_eq others (by simp), hsame]
    · rw [decide_eq_false (hother h' hh').symm, cond_false, List.append_nil]
      exact h.files_eq h' (hsub.subset hh')
  rw [hadd]
  refine ⟨?_, hfiles, fun h' hh' => ?_, ?_⟩
  · obtain ⟨hb, ha, hba⟩ := List.pairwise_append.mp (h.ordered.sublist hsub)
    refine List.pairwise_append.mpr
      ⟨hb, List.pairwise_cons.mpr ⟨fun c hc => hkey ▸ hafter c hc, ha⟩, fun b hb' c hc => ?_⟩
    rcases List.mem_cons.mp hc with rfl | hc
    · exact hkey ▸ hbefore b hb'
    · exact hba b hb' c hc
  · have hmem : h' = g ∨ h' ∈ before ++ after := by simpa [or_left_comm] using hh'
    rcases hmem with rfl | hh'
    · rcases hcases with ⟨-, hg⟩ | ⟨others, -, -, hg⟩ <;> simp [hg]
    · exact h.ne_nil h' (hsub.subset hh')
  · have hmore : ∃ others, g.files = others ++ [f] ∧ gs.flatMap PackageFiles.files =
        before.flatMap PackageFiles.files ++ (others ++ after.flatMap PackageFiles.files) := by
      rcases hcases with ⟨rfl, hg⟩ | ⟨others, rfl, -, hg⟩
      · exact ⟨[], hg, by simp⟩
      · exact ⟨others.files, hg, by simp⟩
    obtain ⟨others, hg, hgs⟩ := hmore
    have hperm := h.perm.append_right [f]
    rw [hgs] at hperm
    refine List.Perm.trans ?_ hperm
    rw [List.flatMap_append, List.flatMap_cons, hg]
    simp only [List.append_assoc]
    exact (List.perm_append_comm.append_left others).append_left _

/-- Putting files into packages, one after the other, leaves them arranged. -/
theorem Arranged.foldl_addToPackage : ∀ (more : List SourceFile) {done : List SourceFile}
    {gs : List PackageFiles}, Arranged done gs →
      Arranged (done ++ more) (more.foldl (fun gs f => GoStyle.addToPackage f gs) gs)
  | [], done, gs, h => by rwa [List.append_nil]
  | f :: more, done, gs, h => by
    rw [List.append_cons]
    exact Arranged.foldl_addToPackage more (h.addToPackage f)

/-- Sorting files into packages arranges them. -/
theorem arranged_groupPackages (files : List SourceFile) :
    Arranged files (groupPackages files) := by
  have hnone : Arranged [] [] := ⟨.nil, by simp, by simp, .nil⟩
  exact hnone.foldl_addToPackage files

end Arranged

/-! ## Packages -/

/-- Whether packages are what files are sorted into, by directory and name. -/
structure SortedInto (files : List SourceFile) (packages : List (List SourceFile)) : Prop where
  /-- No package is empty. -/
  ne_nil : ∀ p ∈ packages, p ≠ []
  /-- No file is lost, and none is added. -/
  perm : packages.flatten.Perm files
  /-- The files of a package lie in one directory and share the name of the package. -/
  together : ∀ p ∈ packages, ∀ f ∈ p, ∀ g ∈ p, f.dir.same g.dir ∧ f.package.name = g.package.name
  /-- A package has all such files, in the order in which they were given. -/
  keeps : ∀ p ∈ packages, ∀ f ∈ p,
    p = files.filter fun g => f.dir.same g.dir ∧ f.package.name = g.package.name
  /-- The packages come in the order of directory and name, no two of them with both the same. -/
  ordered : packages.Pairwise fun p q => ∀ f ∈ p, ∀ g ∈ q,
    (f.dir.key < g.dir.key ∨ f.dir.same g.dir ∧ f.package.name < g.package.name) ∧
      ¬(f.dir.same g.dir ∧ f.package.name = g.package.name)

theorem sortedInto_groupPackages (files : List SourceFile) :
    SortedInto files ((groupPackages files).map PackageFiles.files) := by
  have h := arranged_groupPackages files
  have hkey : ∀ g ∈ groupPackages files, ∀ f ∈ g.files, f.packageKey = g.key := by
    intro g hg f hf
    rw [h.files_eq g hg, List.mem_filter, decide_eq_true_iff] at hf
    exact hf.2
  refine ⟨?_, ?_, ?_, ?_, ?_⟩
  · exact List.forall_mem_map.mpr h.ne_nil
  · rw [← List.flatMap_def]
    exact h.perm
  · refine List.forall_mem_map.mpr fun g hg f hf f' hf' => packageKey_eq_iff.mp ?_
    rw [hkey g hg f hf, hkey g hg f' hf']
  · refine List.forall_mem_map.mpr fun g hg f hf => ?_
    rw [h.files_eq g hg, ← hkey g hg f hf]
    refine List.filter_congr fun f' _ => ?_
    rw [decide_eq_decide, ← packageKey_eq_iff, eq_comm]
  · refine List.pairwise_map.mpr (h.ordered.imp_of_mem fun {g g'} hg hg' hlt f hf f' hf' => ?_)
    rw [← hkey g hg f hf, ← hkey g' hg' f' hf'] at hlt
    exact ⟨packageKey_lt_iff.mp hlt, mt packageKey_eq_iff.mpr hlt.ne⟩

/-- No linter refuses a package into which files were sorted. -/
theorem SortedInto.exists_report {files : List SourceFile} {packages : List (List SourceFile)}
    (h : SortedInto files packages) (l : Linter) {p : List SourceFile} (hp : p ∈ packages) :
    ∃ report, l.lint p = .ok report :=
  ⟨_, l.lint_eq fun f hf g hg => (h.together p hp f hf g hg).2⟩

/-! ## Checks of directories -/

/-- What is wrong with settings or a package, where this makes a check fail. -/
def Failure.lintError? : Failure → Option LintError
  | .unusableSettings e | .unusablePackage _ e => some e
  | _ => none

/-- Building a linter does not look at packages. -/
theorem Linter.build_ne_mixedPackages (rules : List Rule) (config : Config) (policy : Option Policy)
    (m : Option Float) (first second : String) :
    Linter.build rules config policy m ≠ .error (.mixedPackages first second) := by
  unfold Linter.build
  dsimp only
  split
  · simp
  · split
    · simp
    · split <;> simp

namespace Workdir

variable {w : Workdir} {choice : ConfigChoice} {o : CheckOptions}

/-- Directories stand for packages into which files were sorted. -/
theorem exists_sortedInto {excludes : List Glob} {dirs : List Path} {p : List SourceFile}
    (hp : p ∈ w.surveyed excludes (.dirs dirs)) : ∃ files packages, SortedInto files packages ∧
      p ∈ packages := by
  obtain ⟨dir, -, hp⟩ := List.mem_flatMap.mp hp
  exact ⟨_, _, sortedInto_groupPackages _, hp⟩

/-- No trouble with directories is that their files belong to several packages. -/
theorem CheckTrouble.lintError?_ne {dirs : List Path}
    (hdirs : w.targets? o.paths = some (.dirs dirs)) {e : Failure} (h : w.CheckTrouble choice o e)
    (first second : String) : e.lintError? ≠ some (.mixedPackages first second) := by
  cases h with
  | config he =>
    unfold configFor readConfig at he
    split at he
    · cases he
    · split at he
      · cases he
        simp [Failure.lintError?]
      · split at he <;> cases he
        simp [Failure.lintError?]
  | exclude _ he =>
    unfold Config.excludes Except.mapError at he
    split at he <;> cases he
    simp [Failure.lintError?]
  | settings _ _ he =>
    unfold Config.linter Except.mapError at he
    split at he <;> cases he
    rename_i hbuild
    rintro heq
    obtain rfl := Option.some.inj heq
    exact Linter.build_ne_mixedPackages _ _ _ _ _ _ hbuild
  | mixed => simp [Failure.lintError?]
  | source => simp [Failure.lintError?]
  | package _ htargets hp he =>
    obtain rfl := Option.some.inj (htargets.symm.trans hdirs)
    obtain ⟨files, packages, hsorted, hp⟩ := exists_sortedInto hp
    obtain ⟨report, hreport⟩ := hsorted.exists_report _ hp
    cases hreport.symm.trans he

end Workdir

/-- Files are sorted into packages, none of which any linter refuses. So a check of directories,
whatever they hold, never fails because files belong to several packages. -/
theorem groupPackages_sorts (files : List SourceFile) :
    SortedInto files ((groupPackages files).map PackageFiles.files) ∧
    (∀ g ∈ groupPackages files, ∀ l : Linter, ∃ report, l.lint g.files = .ok report) ∧
    ∀ (w : Workdir) (choice : ConfigChoice) (o : CheckOptions) (dirs : List Path),
      w.targets? o.paths = some (.dirs dirs) → ∀ e, (w.check choice o).result = .error e →
        ∀ first second, e.lintError? ≠ some (.mixedPackages first second) := by
  have hsorted := sortedInto_groupPackages files
  refine ⟨hsorted, fun g hg l => hsorted.exists_report l (List.mem_map_of_mem hg), ?_⟩
  intro w choice o dirs hdirs e he first second
  rcases w.check_cases choice o with ⟨e', htrouble, hresult⟩ | ⟨-, _, _, _, _, -, -, -, hresult⟩
  · obtain rfl := Except.error.inj (hresult.symm.trans he)
    exact htrouble.lintError?_ne hdirs first second
  · cases hresult.symm.trans he

/-- Two files of a package, in directories with the same components, and one of another. -/
def mixedFiles : List SourceFile :=
  [SourceFile.empty ⟨"d/b.go"⟩ "a", SourceFile.empty ⟨"d/a_test.go"⟩ "a_test",
    SourceFile.empty ⟨"d/.//a.go"⟩ "a"]

/-- A directory with files of two packages. -/
def mixedDir : Workdir :=
  ⟨⟨[["d"]], [⟨["d", "a.go"], some "package a\n"⟩, ⟨["d", "a_test.go"], some "package a_test\n"⟩],
    by decide⟩, []⟩

/-- A linter that refuses the files together takes both packages into which they are sorted, and no
check of the directory fails for them. -/
theorem groupPackages_sorts_mixedFiles :
    (∃ e, strictLinter.lint mixedFiles = .error e) ∧
    (groupPackages mixedFiles).map (·.files.map (·.path.text)) =
      [["d/b.go", "d/.//a.go"], ["d/a_test.go"]] ∧
    (∀ g ∈ groupPackages mixedFiles, ∃ report, strictLinter.lint g.files = .ok report) ∧
    mixedDir.targets? ["d"] = some (.dirs [⟨"d"⟩]) ∧
    ∀ choice minConfidence setExitStatus format e,
      (mixedDir.check choice ⟨["d"], minConfidence, setExitStatus, format⟩).result = .error e →
        ∀ first second, e.lintError? ≠ some (.mixedPackages first second) := by
  have htargets : mixedDir.targets? ["d"] = some (.dirs [⟨"d"⟩]) := by decide
  obtain ⟨-, htaken, hchecks⟩ := groupPackages_sorts mixedFiles
  exact ⟨⟨_, rfl⟩, by decide, fun g hg => htaken g hg strictLinter, htargets,
    fun choice _ _ _ => hchecks mixedDir choice ⟨["d"], _, _, _⟩ _ htargets⟩

end GoStyle
