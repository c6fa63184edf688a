import GoStyle.Proofs.Coverage
import GoStyle.Proofs.PackageFacts

/-!
# Where problems come from

Every problem in a report is one that a rule of the linter has with a file of the package
(`Linter.exists_voices`), so it tells of that file and of that rule: their path, line, name and
category. The file is none that a rule stays silent on, and all rules stay silent on generated files
(`skipsGenerated_of_mem`), that is on every file at the path of a marked one
(`isGenerated_build`). All of this is said of a report in `Linter.lint_provenance`.
-/

namespace GoStyle

/-- All rules stay silent on generated files. -/
theorem skipsGenerated_of_mem {r : Rule} (hr : r ∈ defaultRules) : r.skipsGenerated := by
  simp only [defaultRules, List.mem_cons, List.not_mem_nil, or_false] at hr
  rcases hr with rfl | rfl | rfl | rfl | rfl | rfl | rfl <;> rfl

/-- The degrees of confidence that rules have in what they say. -/
def confidences : List Float :=
  [0.2, 0.8, 0.9, 1.0]

theorem confidence_mem_of_opening {o : String × Float} (ho : o ∈ openings) : o.2 ∈ confidences := by
  simp only [openings, things, List.map_cons, List.map_nil, List.cons_append, List.nil_append,
    List.mem_cons, List.not_mem_nil, or_false] at ho
  rcases ho with rfl | rfl | rfl | rfl | rfl | rfl | rfl | rfl | rfl | rfl | rfl | rfl | rfl | rfl |
    rfl | rfl | rfl <;> simp [confidences]

/-- A file on which a rule is not silent does not stand at the path of a marked file. -/
theorem Linter.not_marked_of_mem_contexts {l : Linter} {files : List SourceFile} {c : FileContext}
    (hc : c ∈ l.contexts files) {r : Rule} (hr : r ∈ defaultRules) (hsil : c.silences r = false)
    {g : SourceFile} (hg : g ∈ files) (hmark : g.isGenerated l.policy) :
    c.file.path.same g.path = false := by
  obtain ⟨-, hpackage, -⟩ := Linter.mem_contexts.mp hc
  rw [FileContext.silences, skipsGenerated_of_mem hr, Bool.true_and, FileContext.isGenerated,
    hpackage, isGenerated_build, List.any_eq_false] at hsil
  simpa [hmark] using hsil g hg

/-- Every problem in the report on a package comes from one of its files: it stands there, quotes
the line where it stands, and is what a rule of the linter says, in the category of that rule and
with one of four degrees of confidence. No file at the path of the problem is marked as generated by
a line of a comment before its package clause. -/
theorem Linter.lint_provenance (l : Linter) (files : List SourceFile)
    (hrules : ∀ r ∈ l.rules, r ∈ defaultRules) (hsame : SamePackage files) :
    ∃ report, l.lint files = .ok report ∧ ∀ p ∈ report.problems, ∃ f ∈ files,
      p.position.file = f.path ∧
      (∀ g ∈ files, (∃ group ∈ g.leadingComments, ∃ line ∈ group.lines, ∃ m ∈ l.policy.markers,
        m.matches (trimEnd line.toList)) → f.path.same g.path = false) ∧
      p.lineText = f.line p.position.line ∧
      (∃ r ∈ l.rules, p.rule = r.name ∧ p.category = r.category) ∧
      p.confidence ∈ confidences := by
  refine ⟨_, l.lint_eq hsame, fun p hp => ?_⟩
  have hfound : p ∈ l.found files := mem_of_mem_collect (List.mem_filter.mp hp).1
  obtain ⟨c, hc, r, hr, hsil, hvoices, hrule⟩ := Linter.exists_voices hrules hfound
  refine ⟨c.file, Linter.file_mem_of_mem_contexts hc, hvoices.file, fun g hg hmark => ?_,
    hvoices.lineText, ⟨r, hr, hrule, hvoices.category⟩, ?_⟩
  · exact Linter.not_marked_of_mem_contexts hc (hrules r hr) hsil hg
      ((g.isGenerated_iff l.policy).mpr hmark)
  · obtain ⟨o, ho, -, hconf⟩ := hvoices.opening
    rw [hconf]
    exact confidence_mem_of_opening ho

/-- The file `bareFile` under another name, with a comment before its package clause. -/
def remarkFile : SourceFile :=
  { bareFile with
    path := ⟨"b.go"⟩
    leadingComments := [⟨Pos.start, 1, "Made.\n", ["// Made."]⟩] }

/-- A linter for which any comment line marks a file as generated. -/
def strictLinter : Linter :=
  ⟨[funcDocRule], ⟨[], [Regex.empty]⟩, ⟨1, by decide⟩⟩

/-- Of two files with the same functions, one of them generated, the other one is reported. -/
theorem lint_provenance_remarkFile :
    (∀ r ∈ strictLinter.rules, r ∈ defaultRules) ∧ SamePackage [remarkFile, bareFile] ∧
    ∃ report, strictLinter.lint [remarkFile, bareFile] = .ok report ∧ report.problems ≠ [] ∧
      ∀ p ∈ report.problems, p.position.file = bareFile.path ∧ p.rule = "exported-func-doc" := by
  have hrules : ∀ r ∈ strictLinter.rules, r ∈ defaultRules := by
    simp [strictLinter, defaultRules]
  have hsame : SamePackage [remarkFile, bareFile] := by decide
  obtain ⟨report, hlint, hfrom⟩ := Linter.lint_provenance strictLinter _ hrules hsame
  refine ⟨hrules, hsame, report, hlint, ?_, fun p hp => ?_⟩
  · rw [strictLinter.lint_eq hsame] at hlint
    obtain rfl := Except.ok.inj hlint
    have hfound : _ ∈ strictLinter.found [remarkFile, bareFile] := List.mem_cons_self
    obtain ⟨q, hq, htwin⟩ := exists_twin_mem_collect hfound
    have hconf := Linter.confidence_eq_of_mem_found hrules hfound (mem_of_mem_collect hq)
      (Problem.text_eq_of_twin htwin)
    refine List.ne_nil_of_mem (List.mem_filter.mpr ⟨hq, ?_⟩)
    rw [← hconf]
    decide
  · obtain ⟨f, hf, hfile, hmarked, -, ⟨r, hr, hrule, -⟩, -⟩ := hfrom p hp
    obtain rfl := List.mem_singleton.mp hr
    refine ⟨?_, hrule⟩
    have hremark := hmarked remarkFile List.mem_cons_self
      ⟨_, List.mem_cons_self, _, List.mem_cons_self, _, List.mem_cons_self, rfl⟩
    rcases List.mem_cons.mp hf with rfl | hf
    · cases hremark
    · rw [hfile, List.mem_singleton.mp hf]

end GoStyle
