import Mathlib.Data.Set.Lattice
import GoStyle.Proofs.Coverage
import GoStyle.Proofs.ValueDocs

/-!
# Independence of rules

Rules share their notes, and problems are collected across rules, yet what a rule says does not
depend on the others (`Linter.findings_eq_iUnion`). Six rules have nothing to do with notes
(`check_eq_of_ne_valueDoc`). The seventh, on comments of values, says less where it has been before,
but only because it has said the rest then: a file is noted by that rule's own turns on it
(`hasMissingComment_foldl_notes`), so the first of them finds all that it would find without notes
(`Linter.mem_found_iff`). Collecting hides nothing since twins are equally confident.
-/

namespace GoStyle

/-! ## What a turn finds -/

/-- Of all rules only the one on comments of values has to do with notes. -/
theorem check_eq_of_ne_valueDoc {r : Rule} (hr : r ∈ defaultRules) (hne : r ≠ valueDocRule)
    (c : FileContext) (s : PassState) : r.check c s = ((r.check c PassState.empty).1, s) := by
  simp only [defaultRules, List.mem_cons, List.not_mem_nil, or_false] at hr
  rcases hr with rfl | rfl | rfl | rfl | rfl | rfl | rfl
  · rfl
  · rfl
  · rfl
  · exact absurd rfl hne
  · rfl
  · rfl
  · rfl

/-- What the rule on comments of values says about a file, by what has been noted. -/
theorem valueDocRule_check (c : FileContext) (s : PassState) : valueDocRule.check c s =
    (.ok (c.decls.flatMap (c.groupFaults s.hasMissingComment)), (c.valueDocs c.decls s).2) := by
  rw [← valueDocs_eq c c.decls s (nodup_numberDecls c.index 0 c.file.decls)]
  rfl

theorem groupFaults_subset (c : FileContext) (noted : GroupId → Bool) (gd : GroupId × Decl) :
    c.groupFaults noted gd ⊆ c.groupFaults PassState.empty.hasMissingComment gd := by
  obtain ⟨g, d⟩ := gd
  cases d with
  | value d => exact specFaults_subset c d (noted g) d.specs
  | type => exact List.nil_subset _
  | func => exact List.nil_subset _

/-- Notes only take away from what a turn finds. -/
theorem Turn.found_subset {t : Turn} (hr : t.rule ∈ defaultRules) (s : PassState) :
    t.found s ⊆ t.found PassState.empty := by
  by_cases hne : t.rule = valueDocRule
  · obtain ⟨r, c⟩ := t
    obtain rfl : r = valueDocRule := hne
    unfold Turn.found
    simp only [valueDocRule_check]
    refine List.map_subset _ fun p hp => ?_
    obtain ⟨gd, hgd, hp⟩ := List.mem_flatMap.mp hp
    exact List.mem_flatMap.mpr ⟨gd, hgd, groupFaults_subset c _ gd hp⟩
  · unfold Turn.found
    rw [check_eq_of_ne_valueDoc hr hne t.context s]
    exact List.Subset.refl _

/-- Notes about other files take away nothing. -/
theorem Turn.found_eq {t : Turn} (hr : t.rule ∈ defaultRules) {s : PassState}
    (hfresh : t.rule = valueDocRule → ∀ g, s.hasMissingComment g → g.file ≠ t.context.index) :
    t.found s = t.found PassState.empty := by
  by_cases hne : t.rule = valueDocRule
  · have hother := hfresh hne
    obtain ⟨r, c⟩ := t
    obtain rfl : r = valueDocRule := hne
    unfold Turn.found
    simp only [valueDocRule_check]
    congr 1
    refine List.flatMap_congr fun gd hgd => ?_
    obtain ⟨g, d⟩ := gd
    have hnot : s.hasMissingComment g = false := by
      rw [← Bool.not_eq_true]
      exact fun h => hother g h (mem_numberDecls hgd).1
    cases d with
    | value d =>
      rw [FileContext.groupFaults, FileContext.groupFaults, hnot, hasMissingComment_empty]
    | type => rfl
    | func => rfl
  · unfold Turn.found
    rw [check_eq_of_ne_valueDoc hr hne t.context s]

/-! ## Where notes come from -/

/-- A turn notes declarations of its file only, and only if its rule is the one that notes. -/
theorem hasMissingComment_notes {t : Turn} (hr : t.rule ∈ defaultRules) {s : PassState}
    {g : GroupId} (h : (t.notes s).hasMissingComment g) :
    s.hasMissingComment g ∨ (t.rule = valueDocRule ∧ g.file = t.context.index) := by
  by_cases hne : t.rule = valueDocRule
  · obtain ⟨r, c⟩ := t
    obtain rfl : r = valueDocRule := hne
    simp only [Turn.notes, valueDocRule_check, hasMissingComment_valueDocs, Bool.or_eq_true,
      List.any_eq_true, Bool.and_eq_true, beq_iff_eq] at h
    rcases h with h | ⟨⟨g', d⟩, hmem, rfl, -⟩
    · exact Or.inl h
    · exact Or.inr ⟨rfl, (mem_numberDecls hmem).1⟩
  · rw [Turn.notes, check_eq_of_ne_valueDoc hr hne] at h
    exact Or.inl h

/-- What has been noted after some turns was noted by one of them, on its own file. -/
theorem hasMissingComment_foldl_notes {g : GroupId} : ∀ {ts : List Turn} {s : PassState},
    (∀ t ∈ ts, t.rule ∈ defaultRules) → (ts.foldl Turn.notes s).hasMissingComment g →
      s.hasMissingComment g ∨ ∃ t ∈ ts, t.rule = valueDocRule ∧ g.file = t.context.index
  | [], _, _, h => Or.inl h
  | t :: ts, s, hrules, h => by
    obtain ⟨ht, hts⟩ := List.forall_mem_cons.mp hrules
    rcases hasMissingComment_foldl_notes hts h with h | ⟨u, hu, hrule, hfile⟩
    · rcases hasMissingComment_notes ht h with h | ⟨hrule, hfile⟩
      · exact Or.inl h
      · exact Or.inr ⟨t, List.mem_cons_self, hrule, hfile⟩
    · exact Or.inr ⟨u, List.mem_cons_of_mem t hu, hrule, hfile⟩

/-- What rules see of files is told apart by the index of the file. -/
theorem Linter.contexts_ext {l : Linter} {files : List SourceFile} {c c' : FileContext}
    (hc : c ∈ l.contexts files) (hc' : c' ∈ l.contexts files) (h : c.index = c'.index) :
    c = c' := by
  obtain ⟨hget, hpackage, hpolicy⟩ := Linter.mem_contexts.mp hc
  obtain ⟨hget', hpackage', hpolicy'⟩ := Linter.mem_contexts.mp hc'
  rw [h, hget'] at hget
  obtain ⟨file, index, package, policy⟩ := c
  obtain ⟨file', index', package', policy'⟩ := c'
  simp_all

/-- The first time that a turn is taken, it finds what it would find without notes. -/
theorem Linter.exists_fresh_turn {l : Linter} (hrules : ∀ r ∈ l.rules, r ∈ defaultRules)
    {files : List SourceFile} {t : Turn} (ht : t ∈ l.turns files) :
    ∃ s, (t, s) ∈ withNotes PassState.empty (l.turns files) ∧
      t.found s = t.found PassState.empty := by
  obtain ⟨before, after, hturns, hfirst⟩ := List.eq_append_cons_of_mem ht
  have hmem : ∀ u ∈ before, u ∈ l.turns files := by
    intro u hu
    rw [hturns]
    exact List.mem_append_left _ hu
  obtain ⟨hc, hr, -⟩ := Linter.mem_turns.mp ht
  refine ⟨before.foldl Turn.notes PassState.empty, ?_, Turn.found_eq (hrules _ hr) ?_⟩
  · rw [hturns, withNotes_append, withNotes]
    exact List.mem_append_right _ List.mem_cons_self
  · intro hrule g hg hfile
    have hbefore : ∀ u ∈ before, u.rule ∈ defaultRules := fun u hu =>
      hrules _ (Linter.mem_turns.mp (hmem u hu)).2.1
    rcases hasMissingComment_foldl_notes hbefore hg with h | ⟨u, hu, hrule', hfile'⟩
    · rw [hasMissingComment_empty] at h
      cases h
    · -- A turn of the rule on the same file would be the same turn, taken before.
      have hcontext : u.context = t.context := Linter.contexts_ext
        (Linter.mem_turns.mp (hmem u hu)).1 hc (hfile'.symm.trans hfile)
      obtain ⟨r, c⟩ := u
      obtain ⟨r', c'⟩ := t
      obtain rfl : c = c' := hcontext
      obtain rfl : r = r' := hrule'.trans hrule.symm
      exact hfirst hu

/-- What is found is what each rule finds without notes in each file where it is not silent. -/
theorem Linter.mem_found_iff {l : Linter} (hrules : ∀ r ∈ l.rules, r ∈ defaultRules)
    {files : List SourceFile} {p : Problem} : p ∈ l.found files ↔
      ∃ t ∈ l.turns files, p ∈ t.found PassState.empty := by
  rw [Linter.mem_found]
  constructor
  · rintro ⟨t, s, hts, hp⟩
    have ht := mem_of_mem_withNotes hts
    exact ⟨t, ht, Turn.found_subset (hrules _ (Linter.mem_turns.mp ht).2.1) s hp⟩
  · rintro ⟨t, ht, hp⟩
    obtain ⟨s, hts, heq⟩ := Linter.exists_fresh_turn hrules ht
    exact ⟨t, s, hts, heq ▸ hp⟩

/-! ## Findings -/

/-- What a problem says, where, and how confidently. -/
def Problem.finding (p : Problem) : (List Component × ℕ × ℕ × ℕ × String) × Float :=
  (p.subject, p.confidence)

/-- What is said about files, as a set. -/
def Linter.findings (l : Linter) (files : List SourceFile) :
    Set ((List Component × ℕ × ℕ × ℕ × String) × Float) :=
  {x | ∃ ps, l.lintUnfiltered files = .ok ps ∧ ∃ p ∈ ps, p.finding = x}

/-- Nothing is hidden by collecting: a twin that stays is as confident as one that does not. -/
theorem Linter.mem_findings {l : Linter} (hrules : ∀ r ∈ l.rules, r ∈ defaultRules)
    {files : List SourceFile} (hsame : SamePackage files)
    {x : (List Component × ℕ × ℕ × ℕ × String) × Float} :
    x ∈ l.findings files ↔ ∃ p ∈ l.found files, p.finding = x := by
  have hlint := l.lintUnfiltered_eq hsame
  constructor
  · rintro ⟨ps, hps, p, hp, rfl⟩
    rw [hlint] at hps
    cases hps
    exact ⟨p, mem_of_mem_collect hp, rfl⟩
  · rintro ⟨p, hp, rfl⟩
    obtain ⟨q, hq, htwin⟩ := exists_twin_mem_collect hp
    have hconf : q.confidence = p.confidence := Linter.confidence_eq_of_mem_found hrules
      (mem_of_mem_collect hq) hp (Problem.text_eq_of_twin htwin).symm
    refine ⟨_, hlint, q, hq, ?_⟩
    rw [Problem.finding, Problem.finding, hconf, (Problem.twin_iff p q).mp htwin]

/-- What a rule says without notes about the files where it does not stay silent. -/
def Linter.ownFindings (l : Linter) (files : List SourceFile) (r : Rule) :
    Set ((List Component × ℕ × ℕ × ℕ × String) × Float) :=
  {x | ∃ c ∈ l.contexts files, c.silences r = false ∧
    ∃ p ∈ (Turn.mk r c).found PassState.empty, p.finding = x}

/-- What is said is what the rules say each on its own, without notes. -/
theorem Linter.mem_findings_iff {l : Linter} (hrules : ∀ r ∈ l.rules, r ∈ defaultRules)
    {files : List SourceFile} (hsame : SamePackage files)
    {x : (List Component × ℕ × ℕ × ℕ × String) × Float} :
    x ∈ l.findings files ↔ ∃ r ∈ l.rules, x ∈ l.ownFindings files r := by
  rw [Linter.mem_findings hrules hsame]
  constructor
  · rintro ⟨p, hp, rfl⟩
    obtain ⟨⟨r, c⟩, ht, hp⟩ := (Linter.mem_found_iff hrules).mp hp
    obtain ⟨hc, hr, hsil⟩ := Linter.mem_turns.mp ht
    exact ⟨r, hr, c, hc, hsil, p, hp, rfl⟩
  · rintro ⟨r, hr, c, hc, hsil, p, hp, rfl⟩
    exact ⟨p, (Linter.mem_found_iff hrules).mpr ⟨⟨r, c⟩, Linter.mem_turns.mpr ⟨hc, hr, hsil⟩, hp⟩,
      rfl⟩

/-- What the linter's own rules say about the files of a package is what each of them says in a run
of its own. So neither the order of the rules nor listing one twice changes what is said. -/
theorem Linter.findings_eq_iUnion (l : Linter) (files : List SourceFile)
    (hrules : ∀ r ∈ l.rules, r ∈ defaultRules) (hsame : SamePackage files) :
    (∀ rules, ∃ ps, ({ l with rules } : Linter).lintUnfiltered files = .ok ps) ∧
    l.findings files = ⋃ r ∈ l.rules, ({ l with rules := [r] } : Linter).findings files ∧
    ∀ rules, (∀ r, r ∈ rules ↔ r ∈ l.rules) →
      ({ l with rules } : Linter).findings files = l.findings files := by
  have hown : ∀ rules, (∀ r ∈ rules, r ∈ defaultRules) → ∀ x,
      x ∈ ({ l with rules } : Linter).findings files ↔ ∃ r ∈ rules, x ∈ l.ownFindings files r :=
    fun rules h x => Linter.mem_findings_iff (l := { l with rules }) h hsame
  refine ⟨fun rules => ⟨_, Linter.lintUnfiltered_eq _ hsame⟩, ?_, fun rules hmem => ?_⟩
  · ext x
    rw [Linter.mem_findings_iff hrules hsame, Set.mem_iUnion₂]
    constructor
    · rintro ⟨r, hr, hx⟩
      have hone : ∀ r' ∈ [r], r' ∈ defaultRules := by
        simpa using hrules r hr
      exact ⟨r, hr, (hown [r] hone x).mpr ⟨r, List.mem_singleton_self r, hx⟩⟩
    · rintro ⟨r, hr, hx⟩
      have hone : ∀ r' ∈ [r], r' ∈ defaultRules := by
        simpa using hrules r hr
      obtain ⟨r', hr', hown'⟩ := (hown [r] hone x).mp hx
      obtain rfl := List.mem_singleton.mp hr'
      exact ⟨r', hr, hown'⟩
  · ext x
    rw [hown rules (fun r hr => hrules r ((hmem r).mp hr)) x, Linter.mem_findings_iff hrules hsame]
    simp only [hmem]

/-- The rule on comments of values twice, behind another, on a file with a value that lacks one. -/
theorem findings_eq_iUnion_bareFile :
    (∀ r ∈ [funcDocRule, valueDocRule, valueDocRule], r ∈ defaultRules) ∧ SamePackage [bareFile] ∧
    (Linter.mk [funcDocRule, valueDocRule, valueDocRule] ⟨[], []⟩ ⟨1, by decide⟩).findings
        [bareFile] =
      ⋃ r ∈ [funcDocRule, valueDocRule, valueDocRule],
        (Linter.mk [r] ⟨[], []⟩ ⟨1, by decide⟩).findings [bareFile] := by
  have hrules : ∀ r ∈ [funcDocRule, valueDocRule, valueDocRule], r ∈ defaultRules := by
    simp [defaultRules]
  have hsame : SamePackage [bareFile] := by decide
  obtain ⟨-, hunion, -⟩ := Linter.findings_eq_iUnion
    (Linter.mk [funcDocRule, valueDocRule, valueDocRule] ⟨[], []⟩ ⟨1, by decide⟩) [bareFile]
    hrules hsame
  exact ⟨hrules, hsame, hunion⟩

end GoStyle
