import GoStyle.Proofs.Independence
import GoStyle.Proofs.PackageFacts

/-!
# The order of files

A report does not depend on the order in which the files of a package are given, receiver names
apart (`Linter.lint_perm`). What order can change is small: the facts of the package, of which all
but the receiver names stay the same (`agrees_build_of_perm`), and the index of a file, by which
only notes are told apart. A rule that asks for neither finds the same in a file wherever it stands
(`check_eq_of_agrees`), and so do all of them together, since what is found does not depend on notes
(`Linter.mem_findings_iff`).
-/

namespace GoStyle

/-! ## Facts -/

/-- Packages about which all questions have the same answers, those about receiver names apart. -/
structure PackageContext.Agrees (c c' : PackageContext) : Prop where
  name : c.name = c'.name
  documented : c.documented = c'.documented
  isGenerated : ∀ path, c.isGenerated path = c'.isGenerated path
  isSortable : ∀ type, c.isSortable type = c'.isSortable type

theorem SamePackage.perm {files files' : List SourceFile} (h : SamePackage files)
    (hperm : files.Perm files') : SamePackage files' :=
  fun f hf g hg => h f (hperm.mem_iff.mpr hf) g (hperm.mem_iff.mpr hg)

/-- The files of a package have one first name in any order. -/
theorem name_build_of_perm {files files' : List SourceFile} (policy : Policy)
    (hsame : SamePackage files) (hperm : files.Perm files') :
    (PackageContext.build files policy).name = (PackageContext.build files' policy).name := by
  rw [name_build, name_build]
  cases files with
  | nil => rw [hperm.nil_eq]
  | cons f fs =>
    cases files' with
    | nil => exact absurd hperm.length_eq (by simp)
    | cons f' fs' =>
      have hf' : f' ∈ f :: fs := hperm.mem_iff.mpr List.mem_cons_self
      exact hsame f List.mem_cons_self f' hf'

/-- In any order the files of a package give the same facts. -/
theorem agrees_build_of_perm {files files' : List SourceFile} (policy : Policy)
    (hsame : SamePackage files) (hperm : files.Perm files') :
    (PackageContext.build files policy).Agrees (PackageContext.build files' policy) where
  name := name_build_of_perm policy hsame hperm
  documented := by
    rw [documented_build, documented_build, hperm.any_eq]
  isGenerated path := by
    rw [isGenerated_build, isGenerated_build, hperm.any_eq]
  isSortable type := by
    rw [Bool.eq_iff_iff, isSortable_build_iff, isSortable_build_iff]
    simp only [hperm.mem_iff]

/-! ## Rules -/

section Rules

variable {f : SourceFile} {i i' : ℕ} {package package' : PackageContext} {policy : Policy}

theorem packageComment_eq_of_agrees (h : package.Agrees package') :
    (FileContext.mk f i package policy).packageComment =
      (FileContext.mk f i' package' policy).packageComment := by
  obtain ⟨name, documented, _, _, _⟩ := package
  obtain ⟨name', documented', _, _, _⟩ := package'
  obtain ⟨hname, hdocumented, -, -⟩ := h
  subst hname hdocumented
  rfl

theorem funcDoc_eq_of_agrees (h : package.Agrees package') :
    (FileContext.mk f i package policy).funcDoc =
      (FileContext.mk f i' package' policy).funcDoc := by
  funext d
  have htitle : (FileContext.mk f i package policy).funcTitle? d =
      (FileContext.mk f i' package' policy).funcTitle? d := by
    simp only [FileContext.funcTitle?, h.isSortable]
  rw [FileContext.funcDoc, FileContext.funcDoc, htitle]
  rfl

/-- The declarations of a file, without what tells them apart in notes. -/
theorem map_snd_numberDecls (file : ℕ) : ∀ (n : ℕ) (ds : List Decl),
    (numberDecls file n ds).map Prod.snd = ds
  | _, [] => rfl
  | n, d :: ds => by rw [numberDecls, List.map_cons, map_snd_numberDecls file (n + 1) ds]

/-- Without notes, the rule on comments of values does not ask which declaration is which. -/
theorem valueDocRule_check_empty (c : FileContext) : (valueDocRule.check c PassState.empty).1 =
    .ok (c.file.decls.flatMap fun d => c.groupFaults (fun _ => false) (⟨0, 0⟩, d)) := by
  have hdecls : c.decls.flatMap (c.groupFaults PassState.empty.hasMissingComment) =
      c.decls.flatMap fun gd => c.groupFaults (fun _ => false) (⟨0, 0⟩, gd.2) := by
    refine List.flatMap_congr fun gd _ => ?_
    obtain ⟨g, d⟩ := gd
    cases d <;> rfl
  rw [valueDocRule_check, hdecls, ← map_snd_numberDecls c.index 0 c.file.decls, List.flatMap_map]
  rfl

/-- What is wrong with the lines of a declaration depends on the file and the policy only. -/
theorem specFaults_eq (i i' : ℕ) (package package' : PackageContext) (d : ValueDecl) :
    ∀ (noted : Bool) (specs : List ValueSpec),
      (FileContext.mk f i package policy).specFaults d noted specs =
        (FileContext.mk f i' package' policy).specFaults d noted specs
  | _, [] => rfl
  | noted, s :: ss => by
    rw [FileContext.specFaults, FileContext.specFaults, specFaults_eq i i' package package' d _ ss]
    rfl

/-- What is wrong with the names of a declaration depends on the file and the policy only. -/
theorem declNameFaults_eq (i i' : ℕ) (package package' : PackageContext) :
    (FileContext.mk f i package policy).declNameFaults =
      (FileContext.mk f i' package' policy).declNameFaults := by
  have hname : (FileContext.mk f i package policy).nameFaults =
      (FileContext.mk f i' package' policy).nameFaults := rfl
  funext d
  cases d with
  | type d => rw [FileContext.declNameFaults, FileContext.declNameFaults, hname]
  | func d => rfl
  | value d => rw [FileContext.declNameFaults, FileContext.declNameFaults, hname]

/-- Without notes, all rules but that on receiver names find the same in a file wherever it stands
among the files of a package. -/
theorem check_eq_of_agrees {r : Rule} (hr : r ∈ defaultRules) (hne : r ≠ receiverNamesRule)
    (h : package.Agrees package') :
    (r.check ⟨f, i, package, policy⟩ PassState.empty).1 =
      (r.check ⟨f, i', package', policy⟩ PassState.empty).1 := by
  simp only [defaultRules, List.mem_cons, List.not_mem_nil, or_false] at hr
  rcases hr with rfl | rfl | rfl | rfl | rfl | rfl | rfl
  · exact packageComment_eq_of_agrees h
  · rfl
  · exact congrArg (fun find => Except.ok (f.funcs.filterMap find)) (funcDoc_eq_of_agrees h)
  · rw [valueDocRule_check_empty, valueDocRule_check_empty]
    congr 1
    refine List.flatMap_congr fun d _ => ?_
    cases d with
    | value d => exact specFaults_eq i i' package package' d false d.specs
    | type d => rfl
    | func d => rfl
  · rfl
  · have hnames : (FileContext.mk f i package policy).names =
        (FileContext.mk f i' package' policy).names := by
      rw [FileContext.names, FileContext.names, FileContext.declsNameFaults_eq_gather,
        FileContext.declsNameFaults_eq_gather, declNameFaults_eq i i' package package']
      rfl
    exact hnames
  · exact absurd rfl hne

end Rules

/-! ## Reports -/

/-- What a report says, as a set. -/
def Report.findings (r : Report) : Set ((List Component × ℕ × ℕ × ℕ × String) × Float) :=
  {x | ∃ p ∈ r.problems, p.finding = x}

/-- A report says what there is to say and reaches the threshold. -/
theorem Linter.exists_report {l : Linter} {files : List SourceFile} (hsame : SamePackage files) :
    ∃ r, l.lint files = .ok r ∧ r.filesChecked = files.length ∧
      ∀ x, x ∈ r.findings ↔ x ∈ l.findings files ∧ l.minConfidence.admits x.2 := by
  refine ⟨_, l.lint_eq hsame, rfl, fun x => ?_⟩
  constructor
  · rintro ⟨p, hp, rfl⟩
    obtain ⟨hp, hadmits⟩ := List.mem_filter.mp hp
    exact ⟨⟨_, l.lintUnfiltered_eq hsame, p, hp, rfl⟩, hadmits⟩
  · rintro ⟨⟨ps, hps, p, hp, rfl⟩, hadmits⟩
    rw [l.lintUnfiltered_eq hsame] at hps
    cases hps
    exact ⟨p, List.mem_filter.mpr ⟨hp, hadmits⟩, rfl⟩

/-- A file is seen in any order of files, among the same facts. -/
theorem Linter.exists_context_of_perm {l : Linter} {files files' : List SourceFile}
    (hsame : SamePackage files) (hperm : files.Perm files') {c : FileContext}
    (hc : c ∈ l.contexts files) : ∃ c' ∈ l.contexts files', c'.file = c.file ∧
      c'.policy = c.policy ∧ c.package.Agrees c'.package := by
  obtain ⟨hget, hpackage, hpolicy⟩ := Linter.mem_contexts.mp hc
  obtain ⟨i, hi⟩ := List.mem_iff_getElem?.mp (hperm.mem_iff.mp (List.mem_of_getElem? hget))
  refine ⟨⟨c.file, i, PackageContext.build files' l.policy, l.policy⟩,
    Linter.mem_contexts.mpr ⟨hi, rfl, rfl⟩, rfl, hpolicy.symm, ?_⟩
  rw [hpackage]
  exact agrees_build_of_perm l.policy hsame hperm

theorem Linter.ownFindings_subset_of_perm {l : Linter} {files files' : List SourceFile}
    (hsame : SamePackage files) (hperm : files.Perm files') {r : Rule} (hr : r ∈ defaultRules)
    (hne : r ≠ receiverNamesRule) : l.ownFindings files r ⊆ l.ownFindings files' r := by
  rintro x ⟨c, hc, hsil, p, hp, rfl⟩
  obtain ⟨c', hc', hfile, hpolicy, hagrees⟩ := Linter.exists_context_of_perm hsame hperm hc
  obtain ⟨file, i, package, policy⟩ := c
  obtain ⟨file', i', package', policy'⟩ := c'
  obtain rfl : file' = file := hfile
  obtain rfl : policy' = policy := hpolicy
  refine ⟨_, hc', ?_, p, ?_, rfl⟩
  · rw [FileContext.silences, FileContext.isGenerated] at hsil ⊢
    rw [← hsil]
    exact congrArg _ (hagrees.isGenerated _).symm
  · unfold Turn.found at hp ⊢
    rwa [check_eq_of_agrees hr hne hagrees] at hp

/-- The same is said of the files of a package in any order, if nothing is said of receiver names.
-/
theorem Linter.findings_eq_of_perm {l : Linter} {files files' : List SourceFile}
    (hrules : ∀ r ∈ l.rules, r ∈ defaultRules ∧ r ≠ receiverNamesRule)
    (hsame : SamePackage files) (hperm : files.Perm files') :
    l.findings files = l.findings files' := by
  have hsame' := hsame.perm hperm
  have hdefault : ∀ r ∈ l.rules, r ∈ defaultRules := fun r hr => (hrules r hr).1
  have hown : ∀ r ∈ l.rules, l.ownFindings files r = l.ownFindings files' r := by
    intro r hr
    obtain ⟨hr, hne⟩ := hrules r hr
    exact Set.Subset.antisymm (Linter.ownFindings_subset_of_perm hsame hperm hr hne)
      (Linter.ownFindings_subset_of_perm hsame' hperm.symm hr hne)
  ext x
  rw [Linter.mem_findings_iff hdefault hsame, Linter.mem_findings_iff hdefault hsame']
  constructor
  · rintro ⟨r, hr, hx⟩
    exact ⟨r, hr, hown r hr ▸ hx⟩
  · rintro ⟨r, hr, hx⟩
    exact ⟨r, hr, hown r hr ▸ hx⟩

/-- Files given in another order are refused as before, or else as many are looked at and the report
says the same, of the same positions and as confidently, if nothing is asked about receiver names.
-/
theorem Linter.lint_perm (l : Linter) {files files' : List SourceFile}
    (hrules : ∀ r ∈ l.rules, r ∈ defaultRules ∧ r ≠ receiverNamesRule)
    (hperm : files.Perm files') :
    (∃ first second first' second', l.lint files = .error (.mixedPackages first second) ∧
      l.lint files' = .error (.mixedPackages first' second')) ∨
    ∃ report report', l.lint files = .ok report ∧ l.lint files' = .ok report' ∧
      report.filesChecked = report'.filesChecked ∧ report.findings = report'.findings := by
  by_cases hsame : SamePackage files
  · right
    obtain ⟨report, hlint, hcount, hfindings⟩ := l.exists_report hsame
    obtain ⟨report', hlint', hcount', hfindings'⟩ := l.exists_report (hsame.perm hperm)
    refine ⟨report, report', hlint, hlint', ?_, ?_⟩
    · rw [hcount, hcount', hperm.length_eq]
    · ext x
      rw [hfindings, hfindings', Linter.findings_eq_of_perm hrules hsame hperm]
  · left
    have hsame' : ¬SamePackage files' := fun h => hsame (h.perm hperm.symm)
    obtain ⟨first, -, second, -, -, -, -, hmixed⟩ := exists_mixedPackages hsame
    obtain ⟨first', -, second', -, -, -, -, hmixed'⟩ := exists_mixedPackages hsame'
    refine ⟨first.package.name, second.package.name, first'.package.name, second'.package.name,
      ?_, ?_⟩
    · rw [Linter.lint, Linter.lintUnfiltered, hmixed]
    · rw [Linter.lint, Linter.lintUnfiltered, hmixed']

/-- A file that declares a method on a type `T`, with the given receiver name. -/
def methodFile (path receiver name : String) : SourceFile :=
  { SourceFile.empty ⟨path⟩ "a" with
    decls := [.func ⟨⟨3, 1, 11⟩, ⟨name, ⟨3, 12, 22⟩⟩, some ⟨some ⟨receiver, ⟨3, 7, 17⟩⟩, some "T"⟩,
      none⟩] }

/-- A type whose sort methods lie in three files, two of them at one path, in two orders. -/
theorem lint_perm_methodFile :
    (∀ r ∈ [funcDocRule, valueDocRule], r ∈ defaultRules ∧ r ≠ receiverNamesRule) ∧
    [methodFile "a.go" "t" "Len", methodFile "b.go" "t" "Less", methodFile "a.go" "t" "Swap"].Perm
      [methodFile "a.go" "t" "Swap", methodFile "a.go" "t" "Len", methodFile "b.go" "t" "Less"] ∧
    ∃ report report', (Linter.mk [funcDocRule, valueDocRule] ⟨[], []⟩ ⟨1, by decide⟩).lint
        [methodFile "a.go" "t" "Len", methodFile "b.go" "t" "Less", methodFile "a.go" "t" "Swap"] =
          .ok report ∧
      (Linter.mk [funcDocRule, valueDocRule] ⟨[], []⟩ ⟨1, by decide⟩).lint
        [methodFile "a.go" "t" "Swap", methodFile "a.go" "t" "Len", methodFile "b.go" "t" "Less"] =
          .ok report' ∧
      report.filesChecked = 3 ∧ report.findings = report'.findings := by
  have hrules : ∀ r ∈ [funcDocRule, valueDocRule], r ∈ defaultRules ∧ r ≠ receiverNamesRule := by
    intro r hr
    rcases List.mem_cons.mp hr with rfl | hr
    · exact ⟨by simp [defaultRules], fun h => absurd (congrArg Rule.name h) (by decide)⟩
    · obtain rfl := List.mem_singleton.mp hr
      exact ⟨by simp [defaultRules], fun h => absurd (congrArg Rule.name h) (by decide)⟩
  have hperm : [methodFile "a.go" "t" "Len", methodFile "b.go" "t" "Less",
      methodFile "a.go" "t" "Swap"].Perm [methodFile "a.go" "t" "Swap",
        methodFile "a.go" "t" "Len", methodFile "b.go" "t" "Less"] := by decide
  have hsame : SamePackage [methodFile "a.go" "t" "Len", methodFile "b.go" "t" "Less",
      methodFile "a.go" "t" "Swap"] := by decide
  refine ⟨hrules, hperm, ?_⟩
  rcases Linter.lint_perm (Linter.mk [funcDocRule, valueDocRule] ⟨[], []⟩ ⟨1, by decide⟩) hrules
    hperm with ⟨first, second, -, -, hmixed, -⟩ | ⟨report, report', hlint, hlint', -, hfindings⟩
  · rw [Linter.lint_eq _ hsame] at hmixed
    cases hmixed
  · refine ⟨report, report', hlint, hlint', ?_, hfindings⟩
    rw [Linter.lint_eq _ hsame] at hlint
    obtain rfl := Except.ok.inj hlint
    rfl

/-- Receiver names are judged by the first one used, so there the order of files matters. -/
theorem exists_perm_findings_ne : ∃ l : Linter, l.rules = [receiverNamesRule] ∧
    ∃ files files' : List SourceFile, SamePackage files ∧ files.Perm files' ∧
      l.findings files ≠ l.findings files' := by
  let l : Linter := ⟨[receiverNamesRule], ⟨[], []⟩, ⟨1, by decide⟩⟩
  let f := methodFile "a.go" "s" "F"
  let g := methodFile "b.go" "t" "G"
  have hrules : ∀ r ∈ l.rules, r ∈ defaultRules := by simp [l, defaultRules]
  have hsame : SamePackage [f, g] := by decide
  refine ⟨l, rfl, [f, g], [g, f], hsame, List.Perm.swap _ _ _, fun heq => ?_⟩
  have hfound : _ ∈ l.found [f, g] := List.mem_cons_self
  have hfinding := (Linter.mem_findings hrules hsame).mpr ⟨_, hfound, rfl⟩
  rw [heq, Linter.mem_findings hrules (hsame.perm (List.Perm.swap _ _ _))] at hfinding
  obtain ⟨p, hp, hpeq⟩ := hfinding
  obtain rfl := List.mem_singleton.mp hp
  exact absurd (congrArg (·.1.1) hpeq) (by decide)

end GoStyle
