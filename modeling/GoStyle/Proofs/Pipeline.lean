import GoStyle.Proofs.Digest
import GoStyle.Proofs.Turns

/-!
# What a linter reports

A linter refuses files of more than one package, whatever its rules are, and names the first file's
package and the first other. On the files of one package it reports the digest of what its turns
find, the test being that a problem reaches the threshold (`Linter.lint_outcome`). Rules are
arbitrary here: any function of the file and of the notes, with faults.
-/

namespace GoStyle

/-! ## One package -/

/-- Whether files belong to one package. -/
def SamePackage (files : List SourceFile) : Prop :=
  ∀ f ∈ files, ∀ g ∈ files, f.package.name = g.package.name

instance (files : List SourceFile) : Decidable (SamePackage files) :=
  inferInstanceAs (Decidable (∀ f ∈ files, ∀ g ∈ files, f.package.name = g.package.name))

/-- Two packages are found exactly if there are two. -/
theorem mixedPackages?_eq_none_iff (files : List SourceFile) :
    mixedPackages? files = none ↔ SamePackage files := by
  cases files with
  | nil => simp [mixedPackages?, SamePackage]
  | cons first fs =>
    simp only [mixedPackages?, Option.map_eq_none_iff, List.find?_eq_none, bne_iff_ne, ne_eq,
      not_not]
    constructor
    · intro h
      have hfirst : ∀ f ∈ first :: fs, f.package.name = first.package.name := fun f hf => by
        rcases List.mem_cons.mp hf with rfl | hf
        · rfl
        · exact h f hf
      exact fun f hf g hg => (hfirst f hf).trans (hfirst g hg).symm
    · exact fun h f hf => h f (List.mem_cons_of_mem first hf) first List.mem_cons_self

/-- The two packages that are found are the first file's and the first other. -/
theorem exists_mixedPackages {files : List SourceFile} (h : ¬SamePackage files) :
    ∃ first agreeing other rest, files = first :: (agreeing ++ other :: rest) ∧
      (∀ f ∈ agreeing, f.package.name = first.package.name) ∧
      other.package.name ≠ first.package.name ∧
      mixedPackages? files = some (first.package.name, other.package.name) := by
  cases files with
  | nil => exact absurd (by simp [SamePackage]) h
  | cons first fs =>
    rw [← mixedPackages?_eq_none_iff, mixedPackages?, Option.map_eq_none_iff,
      ← ne_eq, Option.ne_none_iff_exists'] at h
    obtain ⟨other, hother⟩ := h
    obtain ⟨hne, agreeing, rest, rfl, hagree⟩ := List.find?_eq_some_iff_append.mp hother
    refine ⟨first, agreeing, other, rest, rfl, fun f hf => ?_, bne_iff_ne.mp hne, ?_⟩
    · simpa using hagree f hf
    · rw [mixedPackages?, hother]
      rfl

/-! ## The report -/

/-- On the files of one package, what is left of what the turns find. -/
theorem Linter.lintUnfiltered_eq (l : Linter) {files : List SourceFile} (h : SamePackage files) :
    l.lintUnfiltered files = .ok (collect (l.found files)) := by
  rw [Linter.lintUnfiltered, (mixedPackages?_eq_none_iff files).mpr h, Linter.flatMap_runs]

/-- On the files of one package, what is left and reaches the threshold. -/
theorem Linter.lint_eq (l : Linter) {files : List SourceFile} (h : SamePackage files) :
    l.lint files = .ok ⟨l.minConfidence.filter (collect (l.found files)), files.length⟩ := by
  rw [Linter.lint, l.lintUnfiltered_eq h]

/-- What a linter makes of files. If they belong to more than one package it fails with the names of
the first file's and the first other, and would with any rules. If they belong to one, the report
lists the first problem of each subject among all that the turns find, if it reaches the threshold,
by place and then by arrival. -/
theorem Linter.lint_outcome (l : Linter) (files : List SourceFile) :
    (¬SamePackage files → ∃ first agreeing other rest,
      files = first :: (agreeing ++ other :: rest) ∧
      (∀ f ∈ agreeing, f.package.name = first.package.name) ∧
      other.package.name ≠ first.package.name ∧
      ∀ rules, ({ l with rules } : Linter).lint files =
        .error (.mixedPackages first.package.name other.package.name)) ∧
    (SamePackage files → ∃ ps, l.lint files = .ok ⟨ps, files.length⟩ ∧
      Digest (fun p => l.minConfidence.admits p.confidence) (l.found files) ps) := by
  constructor
  · intro h
    obtain ⟨first, agreeing, other, rest, hfiles, hagree, hne, hmixed⟩ := exists_mixedPackages h
    refine ⟨first, agreeing, other, rest, hfiles, hagree, hne, fun rules => ?_⟩
    rw [Linter.lint, Linter.lintUnfiltered, hmixed]
  · exact fun h => ⟨_, l.lint_eq h, digest_collect _ _⟩

end GoStyle
