import Mathlib.Data.List.Forall2
import GoStyle.Command.Check

/-!
# Surveys

A check reads sources, sorts them into packages and looks at the packages one after the other, and
each of these steps stops at the first item that gives trouble. `Workdir.surveyed` says without
stopping which packages targets stand for: those of the sources that are read and analysed. Sources
that cannot be listed or read are the only trouble on the way (`Workdir.ReadTrouble`), and without
it the packages are the surveyed ones (`Workdir.packages_cases`). A package that is refused is the
only trouble behind it, and without it the report is that of all packages together
(`Linter.checkPackages_cases`).
-/

namespace GoStyle

/-! ## Sequences of steps -/

theorem exists_of_mem_forall₂ {α β : Type} {R : α → β → Prop} {as : List α} {bs : List β}
    (h : List.Forall₂ R as bs) {a : α} (ha : a ∈ as) : ∃ b ∈ bs, R a b := by
  induction h with
  | nil => cases ha
  | @cons c d as bs hcd _ ih =>
    rcases List.mem_cons.mp ha with rfl | ha
    · exact ⟨d, List.mem_cons_self, hcd⟩
    · obtain ⟨b, hb, hab⟩ := ih ha
      exact ⟨b, List.mem_cons_of_mem d hb, hab⟩

namespace Noted

variable {α β : Type}

/-- A sequence of two steps has a result if both have. -/
theorem result_bind_ok {w : Noted α} {a : α} (h : w.result = .ok a) (f : α → Noted β) :
    (w.bind f).result = (f a).result := by
  rw [result_bind, h]
  rfl

/-- A sequence fails with its first step. -/
theorem result_bind_error {w : Noted α} {e : Failure} (h : w.result = .error e)
    (f : α → Noted β) : (w.bind f).result = .error e := by
  rw [result_bind, h]
  rfl

end Noted

/-! ## Sources -/

namespace Workdir

variable {w : Workdir} {excludes : List Glob}

/-- The source at a path, if it can be read and analysed. -/
def parsed? (w : Workdir) (p : Path) : Option SourceFile :=
  match w.read p with
  | .error _ => none
  | .ok text =>
    match SourceFile.ofText p text with
    | .error _ => none
    | .ok file => some file

/-- Reading sources stops at one that cannot be read, and otherwise gives those that can be
analysed. -/
theorem load_cases (w : Workdir) : ∀ paths : List Path,
    ((∀ p ∈ paths, ∃ text, w.read p = .ok text) ∧
      (w.load paths).result = .ok (paths.filterMap w.parsed?)) ∨
    ∃ p ∈ paths, ∃ e, w.read p = .error e ∧
      (w.load paths).result = .error (.unreadableSource ⟨p, e⟩)
  | [] => Or.inl ⟨by simp, rfl⟩
  | p :: ps => by
    rw [load]
    cases hread : w.read p with
    | error e => exact Or.inr ⟨p, List.mem_cons_self, e, hread, rfl⟩
    | ok text =>
      dsimp only
      rcases w.load_cases ps with ⟨hall, hload⟩ | ⟨q, hq, e, hreadq, hload⟩
      · refine Or.inl ⟨List.forall_mem_cons.mpr ⟨⟨text, hread⟩, hall⟩, ?_⟩
        cases hparse : SourceFile.ofText p text with
        | error e =>
          have hnone : w.parsed? p = none := by rw [parsed?, hread]; simp [hparse]
          rw [List.filterMap_cons_none hnone]
          exact hload
        | ok file =>
          have hsome : w.parsed? p = some file := by rw [parsed?, hread]; simp [hparse]
          rw [List.filterMap_cons_some hsome]
          exact Noted.result_bind_ok hload _
      · refine Or.inr ⟨q, List.mem_cons_of_mem p hq, e, hreadq, ?_⟩
        cases SourceFile.ofText p text with
        | error e => exact hload
        | ok file => exact Noted.result_bind_error hload _

/-- The Go files in a directory that are not excluded, none if they cannot be listed. -/
def keptIn (w : Workdir) (excludes : List Glob) (dir : Path) : List Path :=
  match w.goFilesIn dir with
  | .error _ => []
  | .ok paths => paths.filter fun p => !isExcluded excludes p

/-- The packages of the sources in a directory. -/
def surveyedIn (w : Workdir) (excludes : List Glob) (dir : Path) : List (List SourceFile) :=
  (groupPackages ((w.keptIn excludes dir).filterMap w.parsed?)).map PackageFiles.files

/-- The paths of the sources that targets stand for. -/
def sources (w : Workdir) (excludes : List Glob) : Targets → List Path
  | .dirs dirs => dirs.flatMap (w.keptIn excludes)
  | .files paths => paths.filter fun p => !isExcluded excludes p
  | .packages _ => []

/-- The packages that targets stand for: those of each directory in turn, or one of all files. -/
def surveyed (w : Workdir) (excludes : List Glob) : Targets → List (List SourceFile)
  | .dirs dirs => dirs.flatMap (w.surveyedIn excludes)
  | .files paths =>
    let files := (paths.filter fun p => !isExcluded excludes p).filterMap w.parsed?
    if files.isEmpty then [] else [files]
  | .packages _ => []

/-- What keeps the sources of targets from being read: a directory that cannot be listed, or a
source that cannot be read. -/
inductive ReadTrouble (w : Workdir) (excludes : List Glob) (targets : Targets) : ReadFault → Prop
  | unlisted {dirs dir fault} : targets = .dirs dirs → dir ∈ dirs →
    w.goFilesIn dir = .error fault → ReadTrouble w excludes targets fault
  | unread {p e} : p ∈ w.sources excludes targets → w.read p = .error e →
    ReadTrouble w excludes targets ⟨p, e⟩

theorem packagesIn_cons (w : Workdir) (excludes : List Glob) (dir : Path) (dirs : List Path) :
    w.packagesIn excludes (dir :: dirs) =
      (Noted.ofExcept ((w.goFilesIn dir).mapError .unreadableSource)).bind fun paths =>
      (w.load (paths.filter fun p => !isExcluded excludes p)).bind fun files =>
      (w.packagesIn excludes dirs).bind fun more =>
        .done ((groupPackages files).map PackageFiles.files ++ more) :=
  rfl

/-- In directories reading stops at a directory that cannot be listed or a source that cannot be
read, and otherwise gives the packages of all directories. -/
theorem packagesIn_cases (w : Workdir) (excludes : List Glob) : ∀ dirs : List Path,
    ((∀ dir ∈ dirs, ∃ paths, w.goFilesIn dir = .ok paths) ∧
      (∀ p ∈ dirs.flatMap (w.keptIn excludes), ∃ text, w.read p = .ok text) ∧
      (w.packagesIn excludes dirs).result = .ok (dirs.flatMap (w.surveyedIn excludes))) ∨
    ∃ fault, w.ReadTrouble excludes (.dirs dirs) fault ∧
      (w.packagesIn excludes dirs).result = .error (.unreadableSource fault)
  | [] => Or.inl ⟨by simp, by simp, rfl⟩
  | dir :: dirs => by
    rw [packagesIn_cons]
    cases hlist : w.goFilesIn dir with
    | error fault => exact Or.inr ⟨fault, .unlisted rfl List.mem_cons_self hlist, rfl⟩
    | ok paths =>
      have hkept : w.keptIn excludes dir = paths.filter fun p => !isExcluded excludes p := by
        rw [keptIn, hlist]
      have hpaths : (Noted.ofExcept ((Except.ok paths : Except ReadFault (List Path)).mapError
        Failure.unreadableSource)).result = .ok paths := rfl
      rw [Noted.result_bind_ok hpaths, ← hkept]
      rcases w.load_cases (w.keptIn excludes dir) with ⟨hread, hload⟩ | ⟨p, hp, e, hread, hload⟩
      · rw [Noted.result_bind_ok hload]
        rcases packagesIn_cases w excludes dirs with ⟨hdirs, hreads, hmore⟩ | ⟨fault, h, hmore⟩
        · refine Or.inl ⟨List.forall_mem_cons.mpr ⟨⟨paths, hlist⟩, hdirs⟩, ?_, ?_⟩
          · rw [List.flatMap_cons, List.forall_mem_append]
            exact ⟨hread, hreads⟩
          · rw [Noted.result_bind_ok hmore, List.flatMap_cons]
            rfl
        · refine Or.inr ⟨fault, ?_, Noted.result_bind_error hmore _⟩
          cases h with
          | unlisted heq hmem hlist =>
            obtain rfl := Targets.dirs.inj heq
            exact .unlisted rfl (List.mem_cons_of_mem dir hmem) hlist
          | unread hmem hread => exact .unread (List.mem_append_right _ hmem) hread
      · exact Or.inr ⟨⟨p, e⟩, .unread (List.mem_append_left _ hp) hread,
          Noted.result_bind_error hload _⟩

/-- Reading the sources of targets fails with some trouble, and without any gives the packages that
the targets stand for. -/
theorem packages_cases (w : Workdir) (excludes : List Glob) (targets : Targets) :
    ((∀ fault, ¬w.ReadTrouble excludes targets fault) ∧
      (w.packages excludes targets).result = .ok (w.surveyed excludes targets)) ∨
    ∃ fault, w.ReadTrouble excludes targets fault ∧
      (w.packages excludes targets).result = .error (.unreadableSource fault) := by
  cases targets with
  | dirs dirs =>
    refine (w.packagesIn_cases excludes dirs).imp_left ?_
    rintro ⟨hdirs, hreads, hresult⟩
    refine ⟨fun fault h => ?_, hresult⟩
    cases h with
    | unlisted heq hmem hlist =>
      obtain rfl := Targets.dirs.inj heq
      obtain ⟨paths, hpaths⟩ := hdirs _ hmem
      rw [hpaths] at hlist
      cases hlist
    | unread hmem hread =>
      obtain ⟨text, htext⟩ := hreads _ hmem
      rw [htext] at hread
      cases hread
  | files paths =>
    rcases w.load_cases (paths.filter fun p => !isExcluded excludes p) with
      ⟨hreads, hload⟩ | ⟨p, hp, e, hread, hload⟩
    · refine Or.inl ⟨fun fault h => ?_, ?_⟩
      · cases h with
        | unlisted heq => cases heq
        | unread hmem hread =>
          obtain ⟨text, htext⟩ := hreads _ hmem
          rw [htext] at hread
          cases hread
      · exact Noted.result_bind_ok hload _
    · exact Or.inr ⟨⟨p, e⟩, .unread hp hread, Noted.result_bind_error hload _⟩
  | packages names =>
    refine Or.inl ⟨fun fault h => ?_, rfl⟩
    cases h with
    | unlisted heq => cases heq
    | unread hmem => cases hmem

end Workdir

/-! ## Packages -/

/-- Reports put together, one after the other. -/
def Report.concat (reports : List Report) : Report :=
  ⟨reports.flatMap Report.problems, (reports.map Report.filesChecked).foldr (· + ·) 0⟩

/-- Looking at packages fails with one that is refused, and otherwise gives the reports on all of
them, one after the other. -/
theorem Linter.checkPackages_cases (l : Linter) : ∀ packages : List (List SourceFile),
    (∃ reports, List.Forall₂ (fun files r => l.lint files = .ok r) packages reports ∧
      (l.checkPackages packages).result = .ok (Report.concat reports)) ∨
    ∃ files ∈ packages, ∃ e, l.lint files = .error e ∧
      (l.checkPackages packages).result = .error (.unusablePackage (packageNameOf files) e)
  | [] => Or.inl ⟨[], .nil, rfl⟩
  | files :: packages => by
    have hstep : l.checkPackages (files :: packages) = (l.checkPackage files).bind fun report =>
      (l.checkPackages packages).bind fun more => .done (report.append more) := rfl
    rw [hstep]
    cases hlint : l.lint files with
    | error e =>
      have hfirst : (l.checkPackage files).result =
          .error (.unusablePackage (packageNameOf files) e) := by
        rw [checkPackage, hlint]
        rfl
      exact Or.inr ⟨files, List.mem_cons_self, e, hlint, Noted.result_bind_error hfirst _⟩
    | ok report =>
      have hfirst : (l.checkPackage files).result = .ok report := by
        rw [checkPackage, hlint]
        rfl
      rw [Noted.result_bind_ok hfirst]
      rcases l.checkPackages_cases packages with ⟨reports, hall, hmore⟩ | ⟨bad, hbad, e, he, hmore⟩
      · refine Or.inl ⟨report :: reports, .cons hlint hall, ?_⟩
        rw [Noted.result_bind_ok hmore]
        rfl
      · exact Or.inr ⟨bad, List.mem_cons_of_mem files hbad, e, he, Noted.result_bind_error hmore _⟩

/-! ## Checks -/

namespace Workdir

variable {w : Workdir} {choice : ConfigChoice} {o : CheckOptions}

/-- The configuration that a check goes by, if it can be read. -/
def configFor (w : Workdir) (choice : ConfigChoice) (o : CheckOptions) : Except Failure Config :=
  w.readConfig (w.findConfig (w.configRoot o.paths) choice.explicit choice.globalDir)

/-- Whether a check leaves out files by the given patterns and uses the given linter. -/
def Settles (w : Workdir) (choice : ConfigChoice) (o : CheckOptions) (excludes : List Glob)
    (l : Linter) : Prop :=
  ∃ config, w.configFor choice o = .ok config ∧ config.excludes = .ok excludes ∧
    config.linter o.minConfidence = .ok l

/-- What keeps a check from a report: a configuration that cannot be read, an exclude pattern that
is none, a threshold or marker that cannot be used, targets of several kinds, a source that cannot be
read, or a package that is refused. -/
inductive CheckTrouble (w : Workdir) (choice : ConfigChoice) (o : CheckOptions) : Failure → Prop
  | config {e} : w.configFor choice o = .error e → CheckTrouble w choice o e
  | exclude {config e} : w.configFor choice o = .ok config → config.excludes = .error e →
    CheckTrouble w choice o e
  | settings {config excludes e} : w.configFor choice o = .ok config →
    config.excludes = .ok excludes → config.linter o.minConfidence = .error e →
    CheckTrouble w choice o e
  | mixed {excludes l} : w.Settles choice o excludes l → w.targets? o.paths = none →
    CheckTrouble w choice o .mixedTargets
  | source {excludes l targets fault} : w.Settles choice o excludes l →
    w.targets? o.paths = some targets → w.ReadTrouble excludes targets fault →
    CheckTrouble w choice o (.unreadableSource fault)
  | package {excludes l targets files e} : w.Settles choice o excludes l →
    w.targets? o.paths = some targets → files ∈ w.surveyed excludes targets →
    l.lint files = .error e → CheckTrouble w choice o (.unusablePackage (packageNameOf files) e)

/-- A check goes by one set of patterns and one linter. -/
theorem Settles.unique {excludes excludes' : List Glob} {l l' : Linter}
    (h : w.Settles choice o excludes l) (h' : w.Settles choice o excludes' l') :
    excludes = excludes' ∧ l = l' := by
  obtain ⟨config, hconfig, hexcludes, hlinter⟩ := h
  obtain ⟨config', hconfig', hexcludes', hlinter'⟩ := h'
  obtain rfl := Except.ok.inj (hconfig.symm.trans hconfig')
  exact ⟨Except.ok.inj (hexcludes.symm.trans hexcludes'),
    Except.ok.inj (hlinter.symm.trans hlinter')⟩

/-- A check is settings, and then targets. -/
theorem check_eq (w : Workdir) (choice : ConfigChoice) (o : CheckOptions) : w.check choice o =
    (Noted.ofExcept (w.configFor choice o)).bind fun config =>
    (Noted.ofExcept config.excludes).bind fun excludes =>
    (Noted.ofExcept (config.linter o.minConfidence)).bind fun l =>
      match w.targets? o.paths with
      | none => Noted.failed .mixedTargets
      | some targets => (w.packages excludes targets).bind l.checkPackages :=
  rfl

/-- Settings are found, or else there is trouble with them. -/
theorem settles_cases (w : Workdir) (choice : ConfigChoice) (o : CheckOptions) :
    (∃ excludes l, w.Settles choice o excludes l) ∨
      ∃ e, w.CheckTrouble choice o e ∧ (w.check choice o).result = .error e := by
  rw [check_eq]
  cases hconfig : w.configFor choice o with
  | error e => exact Or.inr ⟨e, .config hconfig, Noted.result_bind_error rfl _⟩
  | ok config =>
    rw [Noted.result_bind_ok rfl]
    cases hexcludes : config.excludes with
    | error e => exact Or.inr ⟨e, .exclude hconfig hexcludes, Noted.result_bind_error rfl _⟩
    | ok excludes =>
      rw [Noted.result_bind_ok rfl]
      cases hlinter : config.linter o.minConfidence with
      | error e =>
        exact Or.inr ⟨e, .settings hconfig hexcludes hlinter, Noted.result_bind_error rfl _⟩
      | ok l => exact Or.inl ⟨excludes, l, config, hconfig, hexcludes, hlinter⟩

theorem result_check_of_settles {excludes : List Glob} {l : Linter} {targets : Targets}
    (h : w.Settles choice o excludes l) (htargets : w.targets? o.paths = some targets) :
    (w.check choice o).result = ((w.packages excludes targets).bind l.checkPackages).result := by
  obtain ⟨config, hconfig, hexcludes, hlinter⟩ := h
  rw [check_eq, hconfig, Noted.result_bind_ok rfl, hexcludes, Noted.result_bind_ok rfl, hlinter,
    Noted.result_bind_ok rfl, htargets]

/-- Where settings and targets are known, only sources and packages can give trouble. -/
theorem checkTrouble_iff {excludes : List Glob} {l : Linter} {targets : Targets} {e : Failure}
    (h : w.Settles choice o excludes l) (htargets : w.targets? o.paths = some targets) :
    w.CheckTrouble choice o e ↔
      (∃ fault, w.ReadTrouble excludes targets fault ∧ e = .unreadableSource fault) ∨
      ∃ files ∈ w.surveyed excludes targets, ∃ cause, l.lint files = .error cause ∧
        e = .unusablePackage (packageNameOf files) cause := by
  obtain ⟨config, hconfig, hexcludes, hlinter⟩ := id h
  constructor
  · intro htrouble
    cases htrouble with
    | config he => cases hconfig.symm.trans he
    | exclude hc he =>
      obtain rfl := Except.ok.inj (hconfig.symm.trans hc)
      cases hexcludes.symm.trans he
    | settings hc _ he =>
      obtain rfl := Except.ok.inj (hconfig.symm.trans hc)
      cases hlinter.symm.trans he
    | mixed _ hnone => cases htargets.symm.trans hnone
    | source hs ht hread =>
      obtain ⟨rfl, rfl⟩ := h.unique hs
      obtain rfl := Option.some.inj (htargets.symm.trans ht)
      exact Or.inl ⟨_, hread, rfl⟩
    | package hs ht hfiles hlint =>
      obtain ⟨rfl, rfl⟩ := h.unique hs
      obtain rfl := Option.some.inj (htargets.symm.trans ht)
      exact Or.inr ⟨_, hfiles, _, hlint, rfl⟩
  · rintro (⟨fault, hread, rfl⟩ | ⟨files, hfiles, cause, hlint, rfl⟩)
    · exact .source h htargets hread
    · exact .package h htargets hfiles hlint

/-- A check that meets any trouble fails with some, and one that meets none reports on all packages
that the targets stand for, one after the other. -/
theorem check_cases (w : Workdir) (choice : ConfigChoice) (o : CheckOptions) :
    (∃ e, w.CheckTrouble choice o e ∧ (w.check choice o).result = .error e) ∨
    (∀ e, ¬w.CheckTrouble choice o e) ∧ ∃ excludes l targets reports,
      w.Settles choice o excludes l ∧ w.targets? o.paths = some targets ∧
      List.Forall₂ (fun files r => l.lint files = .ok r) (w.surveyed excludes targets) reports ∧
      (w.check choice o).result = .ok (Report.concat reports) := by
  rcases w.settles_cases choice o with ⟨excludes, l, hsettles⟩ | htrouble
  · cases htargets : w.targets? o.paths with
    | none =>
      refine Or.inl ⟨_, .mixed hsettles htargets, ?_⟩
      obtain ⟨config, hconfig, hexcludes, hlinter⟩ := hsettles
      rw [check_eq, hconfig, Noted.result_bind_ok rfl, hexcludes, Noted.result_bind_ok rfl, hlinter,
        Noted.result_bind_ok rfl, htargets]
      rfl
    | some targets =>
      have hresult := result_check_of_settles hsettles htargets
      have hiff := fun e => checkTrouble_iff (e := e) hsettles htargets
      rcases w.packages_cases excludes targets with ⟨hread, hpackages⟩ | ⟨fault, hread, hpackages⟩
      · rw [Noted.result_bind_ok hpackages] at hresult
        rcases l.checkPackages_cases (w.surveyed excludes targets) with
          ⟨reports, hlint, hreports⟩ | ⟨files, hfiles, cause, hlint, hreports⟩
        · refine Or.inr ⟨fun e he => ?_, excludes, l, targets, reports, hsettles, rfl, hlint,
            hresult.trans hreports⟩
          rcases (hiff e).mp he with ⟨fault, h, -⟩ | ⟨files, hfiles, cause, hbad, -⟩
          · exact hread fault h
          · obtain ⟨r, -, hgood⟩ := exists_of_mem_forall₂ hlint hfiles
            cases hgood.symm.trans hbad
        · exact Or.inl ⟨_, (hiff _).mpr (Or.inr ⟨files, hfiles, cause, hlint, rfl⟩),
            hresult.trans hreports⟩
      · refine Or.inl ⟨_, (hiff _).mpr (Or.inl ⟨fault, hread, rfl⟩), ?_⟩
        rw [hresult, Noted.result_bind_error hpackages]
  · exact Or.inl htrouble

end Workdir

end GoStyle
