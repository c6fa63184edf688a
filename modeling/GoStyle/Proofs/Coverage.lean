import GoStyle.Proofs.Openings
import GoStyle.Proofs.Pipeline

/-!
# What a report covers

Collecting keeps one problem of each subject, whatever its confidence, so a doubtful problem could
stand in for a certain one and then fail to reach the threshold. The rules of the linter leave no
room for that: their problems have the confidence that their texts tell
(`Linter.confidence_eq_of_mem_found`), so nothing that reaches the threshold is hidden
(`Linter.lint_covers`).
-/

namespace GoStyle

/-- What is found is found by a rule in a file, and marked with the rule. -/
theorem Linter.exists_voices {l : Linter} (hrules : ∀ r ∈ l.rules, r ∈ defaultRules)
    {files : List SourceFile} {p : Problem} (hp : p ∈ l.found files) :
    ∃ c ∈ l.contexts files, ∃ r ∈ l.rules, c.silences r = false ∧ c.Voices r.category p ∧
      p.rule = r.name := by
  obtain ⟨t, s, hts, hp⟩ := Linter.mem_found.mp hp
  obtain ⟨hc, hr, hsil⟩ := Linter.mem_turns.mp (mem_of_mem_withNotes hts)
  unfold Turn.found at hp
  split at hp
  · rename_i ps hcheck
    obtain ⟨q, hq, rfl⟩ := List.mem_map.mp hp
    have hvoices := voices_of_check (hrules _ hr) hcheck q hq
    exact ⟨t.context, hc, t.rule, hr, hsil,
      ⟨hvoices.file, hvoices.lineText, hvoices.category, hvoices.opening⟩, rfl⟩
  · cases hp

/-- Problems with the same text have the same confidence. -/
theorem Linter.confidence_eq_of_mem_found {l : Linter} (hrules : ∀ r ∈ l.rules, r ∈ defaultRules)
    {files : List SourceFile} {p q : Problem} (hp : p ∈ l.found files) (hq : q ∈ l.found files)
    (h : p.text = q.text) : p.confidence = q.confidence := by
  obtain ⟨_, _, _, _, _, hvoices, _⟩ := Linter.exists_voices hrules hp
  obtain ⟨_, _, _, _, _, hvoices', _⟩ := Linter.exists_voices hrules hq
  exact hvoices.confidence_eq hvoices' h

theorem Problem.text_eq_of_twin {p q : Problem} (h : p.twin q) : p.text = q.text := by
  rw [Problem.twin_iff] at h
  simp only [Problem.subject, Prod.mk.injEq] at h
  exact h.2.2.2.2

/-- With the linter's own rules the report covers all problems that reach the threshold: each of
them has a twin of the same confidence in the report. The report is the same when problems below the
threshold are left out before collecting, since problems with the same text have the same
confidence. -/
theorem Linter.lint_covers (l : Linter) (files : List SourceFile)
    (hrules : ∀ r ∈ l.rules, r ∈ defaultRules) (hsame : SamePackage files) :
    ∃ ps, l.lint files = .ok ⟨ps, files.length⟩ ∧
      (∀ run ∈ l.runs files, ∀ p ∈ run.problems, l.minConfidence.admits p.confidence →
        ∃ q ∈ ps, p.twin q ∧ p.confidence = q.confidence) ∧
      ps = collect (l.minConfidence.filter ((l.runs files).flatMap Run.problems)) ∧
      ∀ run ∈ l.runs files, ∀ p ∈ run.problems, ∀ run' ∈ l.runs files, ∀ q ∈ run'.problems,
        p.text = q.text → p.confidence = q.confidence := by
  have hfound : ∀ run ∈ l.runs files, ∀ p ∈ run.problems, p ∈ l.found files := by
    intro run hrun p hp
    rw [← l.flatMap_runs]
    exact List.mem_flatMap_of_mem hrun hp
  have hkeep : ∀ p ∈ l.found files, ∀ q ∈ l.found files, p.twin q →
      l.minConfidence.admits p.confidence = l.minConfidence.admits q.confidence := by
    intro p hp q hq htwin
    rw [Linter.confidence_eq_of_mem_found hrules hp hq (Problem.text_eq_of_twin htwin)]
  refine ⟨_, l.lint_eq hsame, fun run hrun p hp hadmits => ?_, ?_,
    fun run hrun p hp run' hrun' q hq => Linter.confidence_eq_of_mem_found hrules
      (hfound run hrun p hp) (hfound run' hrun' q hq)⟩
  · obtain ⟨q, hq, htwin⟩ := exists_twin_mem_collect (hfound run hrun p hp)
    have hconf : p.confidence = q.confidence := Linter.confidence_eq_of_mem_found hrules
      (hfound run hrun p hp) (mem_of_mem_collect hq) (Problem.text_eq_of_twin htwin)
    refine ⟨q, List.mem_filter.mpr ⟨hq, ?_⟩, htwin, hconf⟩
    rwa [← hconf]
  · rw [l.flatMap_runs]
    exact collect_filter hkeep

/-- A file that declares an exported function `F` and an exported variable `V` without comments. -/
def bareFile : SourceFile :=
  { SourceFile.empty ⟨"a.go"⟩ "a" with
    decls := [.func ⟨⟨3, 1, 11⟩, ⟨"F", ⟨3, 6, 16⟩⟩, none, none⟩,
      .value ⟨.var, ⟨5, 1, 23⟩, false, none, [⟨⟨5, 5, 27⟩, [⟨"V", ⟨5, 5, 27⟩⟩], none⟩]⟩] }

/-- The same rule twice, with the highest threshold there is, on a file with such a problem. -/
theorem lint_covers_bareFile :
    (∀ r ∈ [funcDocRule, funcDocRule], r ∈ defaultRules) ∧ SamePackage [bareFile] ∧
    ∃ ps, (Linter.mk [funcDocRule, funcDocRule] ⟨[], []⟩ ⟨1, by decide⟩).lint [bareFile] =
        .ok ⟨ps, 1⟩ ∧
      ∃ q ∈ ps, q.text = "exported function F should have comment or be unexported" := by
  have hrules : ∀ r ∈ [funcDocRule, funcDocRule], r ∈ defaultRules := by
    simp [defaultRules]
  have hsame : SamePackage [bareFile] := by decide
  obtain ⟨ps, hlint, hcovers, -⟩ := Linter.lint_covers
    (Linter.mk [funcDocRule, funcDocRule] ⟨[], []⟩ ⟨1, by decide⟩) [bareFile] hrules hsame
  obtain ⟨q, hq, htwin, -⟩ := hcovers _ List.mem_cons_self _ List.mem_cons_self (by decide)
  exact ⟨hrules, hsame, ps, hlint, q, hq, (Problem.text_eq_of_twin htwin).symm⟩

end GoStyle
