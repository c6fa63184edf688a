import GoStyle.Proofs.FuncDocs

/-!
# Remarks on values

What the rule on comments of values has to say, line by line and run by run. A run goes through the
lines of all declarations in turn and remarks on each (`FileContext.remarks`), with the declaration
and the line that the remark is about; what it finds are these remarks without their places. A line
is judged by itself (`FileContext.JudgesValue`), but for what has been noted about its declaration.
In all runs together a missing comment is reported once for each declaration that lacks one, at the
first line that does (`Linter.valueDocRule_rounds`).
-/

namespace GoStyle

/-! ## Remarks -/

/-- What a run of the rule has to say about a line of a declaration. -/
structure Remark where
  group : GroupId
  line : ℕ
  said : Option Problem

/-- Whether a problem is that a comment is missing. -/
def Problem.AsksForComment (p : Problem) : Prop :=
  ∃ thing hint, p.text = "exported " ++ thing ++ " should have comment" ++ hint ++
    " or be unexported"

/-- Whether a remark is that a comment is missing. -/
def Remark.AsksForComment (m : Remark) : Prop :=
  ∃ p, m.said = some p ∧ p.AsksForComment

/-- Where else the missing comment on a value may stand. -/
def ValueDecl.blockHint (d : ValueDecl) : String :=
  if d.kind = .const ∧ d.grouped then " (or a comment on this block)" else ""

namespace FileContext

/-- The remarks on some lines of a declaration, the first of which has index `n`. -/
def specRemarks (c : FileContext) (g : GroupId) (d : ValueDecl) :
    ℕ → List ValueSpec → PassState → List Remark
  | _, [], _ => []
  | n, s :: ss, state =>
    ⟨g, n, (c.valueDoc g d s state).1⟩ :: c.specRemarks g d (n + 1) ss (c.valueDoc g d s state).2

/-- The remarks on the values of some declarations. -/
def remarks (c : FileContext) : List (GroupId × Decl) → PassState → List Remark
  | [], _ => []
  | (g, .value d) :: ds, state =>
    c.specRemarks g d 0 d.specs state ++ c.remarks ds (c.valueSpecDocs g d d.specs state).2
  | (_, .type _) :: ds, state => c.remarks ds state
  | (_, .func _) :: ds, state => c.remarks ds state

variable (c : FileContext)

/-- A problem that a line declares an exported name after its first. -/
def ReportsLater (d : ValueDecl) (s : ValueSpec) (extra : Ident) (p : Problem) : Prop :=
  c.Reports p s.pos 1.0
    ("exported " ++ d.kind.keyword ++ " " ++ extra.name ++ " should have its own declaration")

/-- A problem that the comment on a line is missing. -/
def ReportsMissing (d : ValueDecl) (s : ValueSpec) (p : Problem) : Prop :=
  ∃ first, s.names.head? = some first ∧ c.Reports p s.pos 1.0
    ("exported " ++ d.kind.keyword ++ " " ++ first.name ++ " should have comment" ++ d.blockHint ++
      " or be unexported")

/-- What there is to say about a line of a declaration of values. That a comment is missing is said
or has been noted before. -/
inductive JudgesValue (d : ValueDecl) (s : ValueSpec) : Option Problem → Prop
  | nameless : s.names = [] → JudgesValue d s none
  | crowded {extra p} : s.exportedLater? = some extra → c.ReportsLater d s extra p →
    JudgesValue d s (some p)
  | unexported {first} : s.exportedLater? = none → s.names.head? = some first →
    first.isExported = false → JudgesValue d s none
  | missing {p} : d.lacksDoc s → c.ReportsMissing d s p → JudgesValue d s (some p)
  | noted : d.lacksDoc s → JudgesValue d s none
  | inBlock {doc} : s.exportedLater? = none → d.grouped → d.doc = some doc → JudgesValue d s none
  | commented {first doc verdict} : s.exportedLater? = none → s.names.head? = some first →
    first.isExported → s.doc.or d.doc = some doc → ¬(d.grouped ∧ d.doc.isSome) →
    c.JudgesForm (d.kind.keyword ++ " " ++ first.name) first.name doc verdict →
    JudgesValue d s verdict

variable {c} {g : GroupId} {d : ValueDecl} {s : ValueSpec}

theorem lacksDoc_iff : d.lacksDoc s ↔ s.exportedLater? = none ∧
    (∃ first, s.names.head? = some first ∧ first.isExported) ∧ s.doc = none ∧ d.doc = none := by
  simp [ValueDecl.lacksDoc, Option.any_eq_true, and_assoc]

theorem getLast?_append_text (s : String) {t : String} (h : t.toList ≠ []) :
    (s ++ t).toList.getLast? = t.toList.getLast? := by
  rw [String.toList_append, List.getLast?_append_of_ne_nil _ h]

/-- A line with an exported name after its first is reported for it. -/
theorem JudgesValue.of_exportedLater {verdict : Option Problem} (h : c.JudgesValue d s verdict)
    {extra : Ident} (hlater : s.exportedLater? = some extra) : ∃ p, verdict = some p ∧
      c.ReportsLater d s extra p := by
  cases h with
  | nameless hnames =>
    rw [ValueSpec.exportedLater?, hnames] at hlater
    cases hlater
  | crowded hlater' hp =>
    obtain rfl := Option.some.inj (hlater.symm.trans hlater')
    exact ⟨_, rfl, hp⟩
  | unexported hno | inBlock hno | commented hno =>
    rw [hno] at hlater
    cases hlater
  | missing hlacks | noted hlacks =>
    rw [(lacksDoc_iff.mp hlacks).1] at hlater
    cases hlater

/-- Nothing is said about a line without names. -/
theorem JudgesValue.of_nameless {verdict : Option Problem} (h : c.JudgesValue d s verdict)
    (hnames : s.names = []) : verdict = none := by
  have hlater : s.exportedLater? = none := by rw [ValueSpec.exportedLater?, hnames]; rfl
  have hfirst : s.names.head? = none := by rw [hnames]; rfl
  cases h with
  | nameless | unexported | noted | inBlock => rfl
  | crowded hlater' =>
    rw [hlater'] at hlater
    cases hlater
  | missing _ hp =>
    obtain ⟨first, hfirst', -⟩ := hp
    rw [hfirst'] at hfirst
    cases hfirst
  | commented _ hfirst' =>
    rw [hfirst'] at hfirst
    cases hfirst

/-- Of a line in a commented block only a crowd of exported names is reported. -/
theorem JudgesValue.of_inBlock {verdict : Option Problem} (h : c.JudgesValue d s verdict)
    (hlater : s.exportedLater? = none) (hgrouped : d.grouped) (hdoc : d.doc.isSome) :
    verdict = none := by
  cases h with
  | nameless | unexported | noted | inBlock => rfl
  | crowded hlater' =>
    rw [hlater'] at hlater
    cases hlater
  | missing hlacks =>
    rw [(lacksDoc_iff.mp hlacks).2.2.2] at hdoc
    cases hdoc
  | commented _ _ _ _ hblock => exact absurd ⟨hgrouped, hdoc⟩ hblock

/-- What is said about a line that lacks a comment is that it does. -/
theorem JudgesValue.of_lacksDoc {p : Problem} (h : c.JudgesValue d s (some p))
    (hlacks : d.lacksDoc s) : c.ReportsMissing d s p := by
  obtain ⟨hno, -, hspec, hdecl⟩ := lacksDoc_iff.mp hlacks
  cases h with
  | crowded hlater =>
    rw [hno] at hlater
    cases hlater
  | missing _ hp => exact hp
  | commented _ _ _ hdoc =>
    rw [hspec, hdecl] at hdoc
    cases hdoc

/-- Only of a line that lacks a comment is it said that it does. -/
theorem JudgesValue.asks_iff {p : Problem} (h : c.JudgesValue d s (some p)) :
    p.AsksForComment ↔ d.lacksDoc s := by
  constructor
  · rintro ⟨thing, hint, htext⟩
    -- The three texts end in different letters.
    have hlast : p.text.toList.getLast? = some 'd' := by
      rw [htext, getLast?_append_text _ (by decide)]
      rfl
    cases h with
    | crowded _ hp =>
      rw [hp.text, getLast?_append_text _ (by decide)] at hlast
      exact absurd hlast (by decide)
    | missing hlacks => exact hlacks
    | commented _ _ _ _ _ hform =>
      cases hform with
      | malformed _ hp =>
        rw [hp.text, getLast?_append_text _ (by decide)] at hlast
        exact absurd hlast (by decide)
  · intro hlacks
    obtain ⟨first, -, hp⟩ := h.of_lacksDoc hlacks
    refine ⟨d.kind.keyword ++ " " ++ first.name, d.blockHint, hp.text.trans ?_⟩
    simp only [String.append_assoc]

/-- The rule has this to say about a line that needs a comment, whatever has been noted. -/
theorem judges_commentedValue (c : FileContext) (g : GroupId) (state : PassState) {first : Ident}
    (hlater : s.exportedLater? = none) (hfirst : s.names.head? = some first)
    (hexported : first.isExported) :
    c.JudgesValue d s (c.commentedValue g d s first.name state).1 := by
  have hform (doc : CommentGroup) := judges_form (c := c)
    (d.kind.keyword ++ " " ++ first.name) first.name doc
    (p := (c.problem doc.pos docFormConfidence commentsCategory
        ("comment on exported " ++ d.kind.keyword ++ " " ++ first.name ++
          " should be of the form \"" ++ first.name ++ " ...\"")).withLink
          (reviewGuide "doc-comments"))
    ⟨rfl, rfl, rfl, by simp [FileContext.problem, Problem.withLink, String.append_assoc]⟩
  have hjudged {doc : CommentGroup} (hdoc : s.doc.or d.doc = some doc)
      (hblock : ¬(d.grouped ∧ d.doc.isSome)) :=
    JudgesValue.commented hlater hfirst hexported hdoc hblock (hform doc)
  unfold commentedValue
  rcases hspec : s.doc with _ | specDoc <;> rcases hdecl : d.doc with _ | declDoc
  · have hlacks := lacksDoc_iff.mpr ⟨hlater, ⟨first, hfirst, hexported⟩, hspec, hdecl⟩
    dsimp only
    by_cases hnoted : state.hasMissingComment g
    · rw [if_pos hnoted]
      exact .noted hlacks
    · rw [if_neg hnoted]
      exact .missing hlacks ⟨first, hfirst, rfl, rfl, rfl, rfl⟩
  · dsimp only
    by_cases hgrouped : d.grouped
    · rw [if_pos hgrouped]
      exact .inBlock hlater hgrouped hdecl
    · rw [if_neg hgrouped]
      exact hjudged (by simp [hspec, hdecl]) (by simp [hgrouped])
  · exact hjudged (by simp [hspec]) (by simp [hdecl])
  · dsimp only
    by_cases hgrouped : d.grouped
    · rw [if_pos hgrouped]
      exact .inBlock hlater hgrouped hdecl
    · rw [if_neg hgrouped]
      exact hjudged (by simp [hspec]) (by simp [hgrouped])

/-- The rule has this to say about a line, whatever has been noted. -/
theorem judges_valueDoc (c : FileContext) (g : GroupId) (d : ValueDecl) (s : ValueSpec)
    (state : PassState) : c.JudgesValue d s (c.valueDoc g d s state).1 := by
  unfold valueDoc
  cases hlater : s.exportedLater? with
  | some extra => exact .crowded hlater ⟨rfl, rfl, rfl, rfl⟩
  | none =>
    cases hfirst : s.names.head? with
    | none => exact .nameless (List.head?_eq_none_iff.mp hfirst)
    | some first =>
      dsimp only
      split_ifs with hexported
      · exact c.judges_commentedValue g state hlater hfirst hexported
      · exact .unexported hlater hfirst (by simpa using hexported)

/-- A line that lacks a comment is reported if nothing has been noted. -/
theorem isSome_valueFault (c : FileContext) (h : d.lacksDoc s) : (c.valueFault d s).isSome := by
  obtain ⟨hlater, ⟨first, hfirst, hexported⟩, hspec, hdecl⟩ := lacksDoc_iff.mp h
  rw [valueFault, valueDoc, hlater, hfirst]
  dsimp only
  rw [if_pos hexported, commentedValue, hspec, hdecl]
  rfl

/-! ## The remarks on a declaration -/

/-- What a run finds are its remarks. -/
theorem filterMap_said_specRemarks (c : FileContext) (g : GroupId) (d : ValueDecl) :
    ∀ (n : ℕ) (specs : List ValueSpec) (state : PassState),
      (c.specRemarks g d n specs state).filterMap Remark.said = (c.valueSpecDocs g d specs state).1
  | _, [], _ => rfl
  | n, s :: ss, state => by
    rw [specRemarks, List.filterMap_cons, filterMap_said_specRemarks c g d (n + 1) ss,
      valueSpecDocs]
    rcases c.valueDoc g d s state with ⟨_ | p, state'⟩ <;> rfl

theorem filterMap_said_remarks (c : FileContext) :
    ∀ (ds : List (GroupId × Decl)) (state : PassState),
      (c.remarks ds state).filterMap Remark.said = (c.valueDocs ds state).1
  | [], _ => rfl
  | (g, .value d) :: ds, state => by
    rw [remarks, List.filterMap_append, filterMap_said_specRemarks, filterMap_said_remarks c ds,
      valueDocs]
  | (_, .type _) :: ds, state => by
    rw [remarks, filterMap_said_remarks c ds, valueDocs]
    simp
  | (_, .func _) :: ds, state => by
    rw [remarks, filterMap_said_remarks c ds, valueDocs]
    simp

/-- There is one remark on each line. -/
theorem map_line_specRemarks (c : FileContext) (g : GroupId) (d : ValueDecl) :
    ∀ (n : ℕ) (specs : List ValueSpec) (state : PassState),
      (c.specRemarks g d n specs state).map Remark.line = List.range' n specs.length
  | _, [], _ => rfl
  | n, s :: ss, state => by
    rw [specRemarks, List.map_cons, map_line_specRemarks c g d (n + 1) ss, List.length_cons,
      List.range'_succ]

/-- A remark is a verdict on the line that it is about. -/
theorem judges_of_mem_specRemarks {m : Remark} : ∀ {n : ℕ} {specs : List ValueSpec}
    {state : PassState}, m ∈ c.specRemarks g d n specs state →
      m.group = g ∧ ∃ i s, m.line = n + i ∧ specs[i]? = some s ∧ c.JudgesValue d s m.said
  | n, s :: ss, state, h => by
    rcases List.mem_cons.mp h with rfl | h
    · exact ⟨rfl, 0, s, rfl, rfl, c.judges_valueDoc g d s state⟩
    · obtain ⟨hgroup, i, s', hline, hget, hjudged⟩ := judges_of_mem_specRemarks h
      exact ⟨hgroup, i + 1, s', by omega, by simpa using hget, hjudged⟩

/-- A remark asks for a comment if there is something to say about a line that lacks one. -/
theorem asksForComment_iff {m : Remark} (h : c.JudgesValue d s m.said) :
    m.AsksForComment ↔ m.said.isSome ∧ d.lacksDoc s := by
  obtain ⟨g, n, said⟩ := m
  cases said with
  | none => simp [Remark.AsksForComment]
  | some p => simpa [Remark.AsksForComment] using h.asks_iff

open Classical in
/-- The lines of a declaration at which a run asks for a comment: the first that lacks one, if
nothing has been noted. -/
theorem asking_specRemarks (c : FileContext) (g : GroupId) (d : ValueDecl) :
    ∀ (n : ℕ) (specs : List ValueSpec) (state : PassState),
      ((c.specRemarks g d n specs state).filter fun m => m.AsksForComment).map Remark.line =
        if state.hasMissingComment g then []
        else if specs.any d.lacksDoc then [n + specs.findIdx d.lacksDoc] else []
  | _, [], _ => by simp [specRemarks]
  | n, s :: ss, state => by
    have ih := asking_specRemarks c g d (n + 1) ss
    have hjudged := c.judges_valueDoc g d s state
    have heq := valueDoc_eq c g d s state
    rw [specRemarks, List.filter_cons, List.any_cons, List.findIdx_cons]
    generalize c.valueDoc g d s state = result at hjudged heq ⊢
    obtain ⟨said, after⟩ := result
    have hasks := asksForComment_iff (m := ⟨g, n, said⟩) hjudged
    cases hlacks : d.lacksDoc s with
    | false =>
      obtain ⟨rfl, rfl⟩ : said = c.valueFault d s ∧ after = state := by simpa [hlacks] using heq
      have hsum : n + 1 + ss.findIdx d.lacksDoc = n + (ss.findIdx d.lacksDoc + 1) := by omega
      simpa [hasks, hlacks, hsum] using ih after
    | true =>
      cases hnoted : state.hasMissingComment g with
      | true =>
        obtain ⟨rfl, rfl⟩ : said = none ∧ after = state := by simpa [hlacks, hnoted] using heq
        simpa [hasks, hnoted] using ih after
      | false =>
        obtain ⟨rfl, rfl⟩ : said = c.valueFault d s ∧ after = state.markMissingComment g := by
          simpa [hlacks, hnoted] using heq
        have hmarked : (state.markMissingComment g).hasMissingComment g := by
          rw [hasMissingComment_mark]
          simp
        have hrest := ih (state.markMissingComment g)
        rw [if_pos hmarked] at hrest
        simp [hasks, hlacks, c.isSome_valueFault hlacks, hrest]

/-! ## The remarks on a file -/

/-- A remark is a verdict on a line of a declaration of values. -/
theorem judges_of_mem_remarks {m : Remark} : ∀ (ds : List (GroupId × Decl)) (state : PassState),
    m ∈ c.remarks ds state → ∃ d s, (m.group, Decl.value d) ∈ ds ∧ d.specs[m.line]? = some s ∧
      c.JudgesValue d s m.said
  | (g, .value d) :: ds, state, h => by
    rcases List.mem_append.mp h with h | h
    · obtain ⟨rfl, i, s, hline, hget, hjudged⟩ := judges_of_mem_specRemarks h
      rw [Nat.zero_add] at hline
      exact ⟨d, s, List.mem_cons_self, hline ▸ hget, hjudged⟩
    · obtain ⟨d', s, hmem, hjudged⟩ := judges_of_mem_remarks ds _ h
      exact ⟨d', s, List.mem_cons_of_mem _ hmem, hjudged⟩
  | (_, .type _) :: ds, state, h => by
    obtain ⟨d, s, hmem, hjudged⟩ := judges_of_mem_remarks ds state h
    exact ⟨d, s, List.mem_cons_of_mem _ hmem, hjudged⟩
  | (_, .func _) :: ds, state, h => by
    obtain ⟨d, s, hmem, hjudged⟩ := judges_of_mem_remarks ds state h
    exact ⟨d, s, List.mem_cons_of_mem _ hmem, hjudged⟩

/-- Remarks are about the declarations that are gone through. -/
theorem group_mem_of_mem_remarks {m : Remark} {ds : List (GroupId × Decl)} {state : PassState}
    (h : m ∈ c.remarks ds state) : m.group ∈ ds.map Prod.fst := by
  obtain ⟨d, s, hmem, -⟩ := judges_of_mem_remarks ds state h
  exact List.mem_map_of_mem hmem

/-- The remarks on one declaration, if no two declarations are the same. What has been noted about
it when they are made is what had been noted before. -/
theorem filter_group_remarks (c : FileContext) (g : GroupId) (d : ValueDecl) :
    ∀ (ds : List (GroupId × Decl)) (state : PassState), (ds.map Prod.fst).Nodup →
      (g, Decl.value d) ∈ ds → ∃ state' : PassState,
        state'.hasMissingComment g = state.hasMissingComment g ∧
        (c.remarks ds state).filter (·.group = g) = c.specRemarks g d 0 d.specs state'
  | (g', d') :: ds, state, hnodup, hmem => by
    obtain ⟨hg', hds⟩ := List.nodup_cons.mp hnodup
    rcases List.mem_cons.mp hmem with heq | hrest
    · obtain ⟨rfl, rfl⟩ := Prod.mk.inj heq
      have hspecs : (c.specRemarks g d 0 d.specs state).filter (·.group = g) =
          c.specRemarks g d 0 d.specs state :=
        List.filter_eq_self.mpr fun m hm => decide_eq_true (judges_of_mem_specRemarks hm).1
      have hrest : (c.remarks ds (c.valueSpecDocs g d d.specs state).2).filter (·.group = g) = [] :=
        List.filter_eq_nil_iff.mpr fun m hm h =>
          hg' (of_decide_eq_true h ▸ group_mem_of_mem_remarks hm)
      exact ⟨state, rfl, by rw [remarks, List.filter_append, hspecs, hrest, List.append_nil]⟩
    · have hne : g ≠ g' := by
        rintro rfl
        exact hg' (List.mem_map.mpr ⟨_, hrest, rfl⟩)
      cases d' with
      | type | func => exact filter_group_remarks c g d ds state hds hrest
      | value d' =>
        obtain ⟨state', hsame, hfilter⟩ :=
          filter_group_remarks c g d ds (c.valueSpecDocs g' d' d'.specs state).2 hds hrest
        have hspecs : (c.specRemarks g' d' 0 d'.specs state).filter (·.group = g) = [] :=
          List.filter_eq_nil_iff.mpr fun m hm h =>
            hne ((of_decide_eq_true h).symm.trans (judges_of_mem_specRemarks hm).1)
        refine ⟨state', hsame.trans ?_, by
          rw [remarks, List.filter_append, hspecs, hfilter, List.nil_append]⟩
        rw [valueSpecDocs_eq]
        dsimp only
        split_ifs
        · rw [hasMissingComment_mark, beq_eq_false_iff_ne.mpr hne, Bool.or_false]
        · rfl

/-- The identity of a declaration tells which it is. -/
theorem decls_unique {d d' : Decl} (h : (g, d) ∈ c.decls) (h' : (g, d') ∈ c.decls) : d = d' :=
  (Prod.mk.inj
    (List.inj_on_of_nodup_map (nodup_numberDecls c.index 0 c.file.decls) h h' rfl)).2

/-- Having looked at a file, the rule has noted those of its declarations that lack a comment. -/
theorem hasMissingComment_notes_valueDoc (h : (g, Decl.value d) ∈ c.decls) (state : PassState) :
    (Turn.notes state ⟨valueDocRule, c⟩).hasMissingComment g =
      (state.hasMissingComment g || d.specs.any d.lacksDoc) := by
  rw [Turn.notes, valueDocRule_check, hasMissingComment_valueDocs]
  congr 1
  rw [Bool.eq_iff_iff, List.any_eq_true]
  constructor
  · rintro ⟨⟨g', d'⟩, hmem, hboth⟩
    obtain ⟨hg, hlacks⟩ := Bool.and_eq_true_iff.mp hboth
    obtain rfl := beq_iff_eq.mp hg
    obtain rfl := decls_unique hmem h
    exact hlacks
  · intro hlacks
    exact ⟨_, h, Bool.and_eq_true_iff.mpr ⟨beq_self_eq_true g, hlacks⟩⟩

end FileContext

/-! ## Rounds -/

open Classical in
/-- The lines of a declaration for which remarks ask for a comment. -/
noncomputable def askingLines (g : GroupId) (ms : List Remark) : List ℕ :=
  (ms.filter fun m => m.group = g ∧ m.AsksForComment).map Remark.line

theorem askingLines_append (g : GroupId) (ms ms' : List Remark) :
    askingLines g (ms ++ ms') = askingLines g ms ++ askingLines g ms' := by
  rw [askingLines, List.filter_append, List.map_append]
  rfl

/-- A run over a file asks for a comment on a declaration if it lacks one and this has not been
noted, and does so once. -/
theorem FileContext.askingLines_remarks {c : FileContext} {g : GroupId} {d : ValueDecl}
    (h : (g, Decl.value d) ∈ c.decls) (state : PassState) :
    askingLines g (c.remarks c.decls state) =
      if state.hasMissingComment g then []
      else if d.specs.any d.lacksDoc then [d.specs.findIdx d.lacksDoc] else [] := by
  classical
  obtain ⟨state', hsame, hfilter⟩ := c.filter_group_remarks g d c.decls state
    (nodup_numberDecls c.index 0 c.file.decls) h
  have hsplit : askingLines g (c.remarks c.decls state) =
      (((c.remarks c.decls state).filter (·.group = g)).filter fun m => m.AsksForComment).map
        Remark.line := by
    rw [askingLines, List.filter_filter]
    congr 2
    funext m
    rw [Bool.decide_and, Bool.and_comm]
  rw [hsplit, hfilter, c.asking_specRemarks, hsame, Nat.zero_add]

/-- No run over another file asks for a comment on a declaration. -/
theorem FileContext.askingLines_remarks_of_ne {c : FileContext} {g : GroupId}
    (h : g.file ≠ c.index) (state : PassState) : askingLines g (c.remarks c.decls state) = [] := by
  have hnone : ∀ m ∈ c.remarks c.decls state, m.group ≠ g := by
    rintro m hm rfl
    obtain ⟨d, s, hmem, -⟩ := FileContext.judges_of_mem_remarks c.decls state hm
    exact h (mem_numberDecls hmem).1
  rw [askingLines, List.map_eq_nil_iff, List.filter_eq_nil_iff]
  intro m hm hasks
  simp only [decide_eq_true_eq] at hasks
  exact hnone m hm hasks.1

/-- What the rule does in some turns: the files that it looks at, each with its remarks. -/
def roundsOf (state : PassState) (ts : List Turn) : List (FileContext × List Remark) :=
  ((withNotes state ts).filter (·.1.rule.name == valueDocRule.name)).map fun (t, s) =>
    (t.context, t.context.remarks t.context.decls s)

theorem roundsOf_cons_of_ne {t : Turn} (h : t.rule.name ≠ valueDocRule.name) (state : PassState)
    (ts : List Turn) : roundsOf state (t :: ts) = roundsOf (t.notes state) ts := by
  rw [roundsOf, withNotes, List.filter_cons_of_neg (by simpa using h)]
  rfl

theorem roundsOf_cons_valueDoc (c : FileContext) (state : PassState) (ts : List Turn) :
    roundsOf state (⟨valueDocRule, c⟩ :: ts) =
      (c, c.remarks c.decls state) :: roundsOf (Turn.notes state ⟨valueDocRule, c⟩) ts := by
  rw [roundsOf, withNotes, List.filter_cons_of_pos (by simp), List.map_cons]
  rfl

/-- All that the rule does in the turns of a linter. -/
def Linter.rounds (l : Linter) (files : List SourceFile) : List (FileContext × List Remark) :=
  roundsOf PassState.empty (l.turns files)

section Rounds

variable {l : Linter} {files : List SourceFile}

open Classical in
/-- In all turns together the rule asks for a comment on a declaration if it lacks one, this has not
been noted before and the rule looks at its file at all, and does so once. -/
theorem Linter.askingLines_rounds {c : FileContext} (hc : c ∈ l.contexts files) {g : GroupId}
    {d : ValueDecl} (hd : (g, Decl.value d) ∈ c.decls) : ∀ {ts : List Turn} (state : PassState),
      (∀ t ∈ ts, t.rule ∈ defaultRules ∧ t.context ∈ l.contexts files) →
        askingLines g ((roundsOf state ts).flatMap Prod.snd) =
          if state.hasMissingComment g ∨ ⟨valueDocRule, c⟩ ∉ ts then []
          else if d.specs.any d.lacksDoc then [d.specs.findIdx d.lacksDoc] else []
  | [], state, _ => by simp [roundsOf, withNotes, askingLines]
  | ⟨r, c'⟩ :: ts, state, hts => by
    obtain ⟨⟨hr, hc'⟩, hrest⟩ := List.forall_mem_cons.mp hts
    have hfile : g.file = c.index := (mem_numberDecls hd).1
    by_cases hrule : r = valueDocRule
    · obtain rfl := hrule
      rw [roundsOf_cons_valueDoc, List.flatMap_cons, askingLines_append,
        Linter.askingLines_rounds hc hd _ hrest]
      by_cases hcontext : c' = c
      · obtain rfl := hcontext
        rw [FileContext.askingLines_remarks hd, FileContext.hasMissingComment_notes_valueDoc hd]
        cases state.hasMissingComment g <;> cases d.specs.any d.lacksDoc <;> simp
      · have hother : g.file ≠ c'.index := fun h =>
          hcontext (Linter.contexts_ext hc' hc (h.symm.trans hfile))
        have hnotes : (Turn.notes state ⟨valueDocRule, c'⟩).hasMissingComment g =
            state.hasMissingComment g := by
          rw [Turn.notes, valueDocRule_check, hasMissingComment_valueDocs, Bool.or_eq_left_iff_imp]
          intro h
          obtain ⟨⟨g', d'⟩, hmem, h⟩ := List.any_eq_true.mp h
          obtain rfl := beq_iff_eq.mp (Bool.and_eq_true_iff.mp h).1
          exact absurd (mem_numberDecls hmem).1 hother
        rw [FileContext.askingLines_remarks_of_ne hother, hnotes]
        simp [Ne.symm hcontext]
    · have hname : r.name ≠ valueDocRule.name := fun h =>
        hrule (eq_of_name_eq hr (by simp [defaultRules]) h)
      have hnotes : Turn.notes state ⟨r, c'⟩ = state := by
        rw [Turn.notes, check_eq_of_ne_valueDoc hr hrule]
      rw [roundsOf_cons_of_ne hname, Linter.askingLines_rounds hc hd _ hrest, hnotes]
      simp [Ne.symm hrule]

/-- The runs of the rule find what it remarks on. -/
theorem Linter.runs_valueDocRule (hrules : ∀ r ∈ l.rules, r ∈ defaultRules) :
    (l.runs files).filter (·.rule == valueDocRule.name) = (l.rounds files).map
      fun (c, ms) => ⟨valueDocRule.name, c.file.path, .ok (ms.filterMap Remark.said)⟩ := by
  have hrun : ∀ ts ∈ (withNotes PassState.empty (l.turns files)).filter
      (·.1.rule.name == valueDocRule.name), ts.1.run ts.2 = ⟨valueDocRule.name,
        ts.1.context.file.path, .ok ((ts.1.context.remarks ts.1.context.decls ts.2).filterMap
          Remark.said)⟩ := by
    rintro ⟨⟨r, c⟩, s⟩ hts
    obtain ⟨hmem, hname⟩ := List.mem_filter.mp hts
    obtain ⟨-, hr, -⟩ := Linter.mem_turns.mp (mem_of_mem_withNotes hmem)
    obtain rfl : r = valueDocRule :=
      eq_of_name_eq (hrules _ hr) (by simp [defaultRules]) (beq_iff_eq.mp hname)
    rw [FileContext.filterMap_said_remarks]
    rfl
  rw [Linter.filter_runs, List.map_congr_left hrun, Linter.rounds, roundsOf, List.map_map]
  rfl

/-- The rule looks at a file as often as it is listed, and never at a generated one. -/
theorem Linter.map_fst_rounds (hrules : ∀ r ∈ l.rules, r ∈ defaultRules) :
    (l.rounds files).map Prod.fst = (l.contexts files).flatMap fun c =>
      List.replicate (l.timesOn valueDocRule c) c := by
  have hturns := l.filter_turns files hrules (r := valueDocRule) (by simp [defaultRules])
  rw [← l.map_fst_filter_withNotes] at hturns
  have hcontexts := congrArg (List.map Turn.context) hturns
  simpa [Linter.rounds, roundsOf, Function.comp_def, List.map_flatMap] using hcontexts

/-- Each round of the rule is a run over a file with some notes. -/
theorem Linter.eq_remarks_of_mem_rounds {c : FileContext} {ms : List Remark}
    (h : (c, ms) ∈ l.rounds files) : ∃ state, ms = c.remarks c.decls state := by
  obtain ⟨⟨t, s⟩, -, heq⟩ := List.mem_map.mp h
  obtain ⟨rfl, rfl⟩ := Prod.mk.inj heq
  exact ⟨s, rfl⟩

end Rounds

/-! ## Other rules on comments -/

/-- Whether a declaration is one of values. -/
def Decl.isValue : Decl → Bool
  | .value _ => true
  | _ => false

/-- A file as rules see it, less its declarations of values. -/
def FileContext.withoutValues (c : FileContext) : FileContext :=
  { c with file := { c.file with decls := c.file.decls.filter (!·.isValue) } }

theorem flatMap_filter_isValue {α : Type} {f : Decl → List α} (h : ∀ d, f (.value d) = []) :
    ∀ ds : List Decl, (ds.filter (!·.isValue)).flatMap f = ds.flatMap f
  | [] => rfl
  | .value d :: ds => by
    rw [List.filter_cons_of_neg (by simp [Decl.isValue]), List.flatMap_cons, h, List.nil_append,
      flatMap_filter_isValue h ds]
  | .type _ :: ds => by
    rw [List.filter_cons_of_pos rfl, List.flatMap_cons, List.flatMap_cons,
      flatMap_filter_isValue h ds]
  | .func _ :: ds => by
    rw [List.filter_cons_of_pos rfl, List.flatMap_cons, List.flatMap_cons,
      flatMap_filter_isValue h ds]

/-- No other rule on comments has to do with values. -/
theorem check_withoutValues {r : Rule} (hr : r ∈ defaultRules) (hne : r ≠ valueDocRule)
    (hcategory : r.category = commentsCategory) (c : FileContext) (s : PassState) :
    r.check c.withoutValues s = r.check c s := by
  simp only [defaultRules, List.mem_cons, List.not_mem_nil, or_false] at hr
  rcases hr with rfl | rfl | rfl | rfl | rfl | rfl | rfl
  · rfl
  · have htypes := flatMap_filter_isValue (f := c.typeDocs) (fun _ => rfl) c.file.decls
    exact congrArg (fun found => (Except.ok found, s)) htypes
  · have hfuncs : c.withoutValues.file.funcs = c.file.funcs := by
      have h := flatMap_filter_isValue (f := fun d => d.func?.toList) (fun _ => rfl) c.file.decls
      rwa [← List.filterMap_eq_flatMap_toList, ← List.filterMap_eq_flatMap_toList] at h
    exact congrArg (fun fs => (Except.ok (fs.filterMap c.funcDoc), s)) hfuncs
  · exact absurd rfl hne
  · exact absurd hcategory (by decide)
  · exact absurd hcategory (by decide)
  · exact absurd hcategory (by decide)

/-! ## The rule -/

/-- What the rule does in a run of a linter that lists it at least once. It remarks on each line of
each declaration of values as often as it is listed. A line with an exported name after its first is
reported for that, nothing is said about lines without names or, otherwise, in a commented block,
and of the other lines it is said that they lack a comment only where they do. In all its runs
together this is said once about each declaration in which a line lacks a comment, at the first such
line, and never about others. What other rules on comments find does not depend on values. -/
theorem Linter.valueDocRule_rounds (l : Linter) (files : List SourceFile)
    (hrules : ∀ r ∈ l.rules, r ∈ defaultRules) (hlisted : valueDocRule ∈ l.rules) :
    ((l.runs files).filter (·.rule == valueDocRule.name) = (l.rounds files).map
      fun (c, ms) => ⟨valueDocRule.name, c.file.path, .ok (ms.filterMap Remark.said)⟩) ∧
    ((l.rounds files).map Prod.fst = (l.contexts files).flatMap fun c =>
      List.replicate (l.timesOn valueDocRule c) c) ∧
    (∀ c ms, (c, ms) ∈ l.rounds files → ∀ m ∈ ms, ∃ d s, (m.group, Decl.value d) ∈ c.decls ∧
      d.specs[m.line]? = some s ∧ c.JudgesValue d s m.said ∧
      (∀ extra, s.exportedLater? = some extra → ∃ p, m.said = some p ∧
        c.ReportsLater d s extra p) ∧
      (s.names = [] → m.said = none) ∧
      (s.exportedLater? = none → d.grouped → d.doc.isSome → m.said = none) ∧
      (m.AsksForComment → ∃ p, m.said = some p ∧ c.ReportsMissing d s p)) ∧
    (∀ c ∈ l.contexts files, c.isGenerated = false → ∀ g d, (g, Decl.value d) ∈ c.decls →
      (∀ ms, (c, ms) ∈ l.rounds files →
        (ms.filter (·.group = g)).map Remark.line = List.range d.specs.length) ∧
      askingLines g ((l.rounds files).flatMap Prod.snd) =
        if d.specs.any d.lacksDoc then [d.specs.findIdx d.lacksDoc] else []) ∧
    ∀ r ∈ l.rules, r ≠ valueDocRule → r.category = commentsCategory →
      ∀ c s, r.check c.withoutValues s = r.check c s := by
  refine ⟨Linter.runs_valueDocRule hrules, Linter.map_fst_rounds hrules, fun c ms hround m hm => ?_,
    fun c hc hgen g d hd => ⟨fun ms hround => ?_, ?_⟩,
    fun r hr hne hcategory => check_withoutValues (hrules r hr) hne hcategory⟩
  · obtain ⟨state, rfl⟩ := Linter.eq_remarks_of_mem_rounds hround
    obtain ⟨d, s, hmem, hget, hjudged⟩ := FileContext.judges_of_mem_remarks c.decls state hm
    refine ⟨d, s, hmem, hget, hjudged, fun extra => hjudged.of_exportedLater, hjudged.of_nameless,
      hjudged.of_inBlock, fun ⟨p, hsaid, hasks⟩ => ⟨p, hsaid, ?_⟩⟩
    rw [hsaid] at hjudged
    exact hjudged.of_lacksDoc (hjudged.asks_iff.mp hasks)
  · obtain ⟨state, rfl⟩ := Linter.eq_remarks_of_mem_rounds hround
    obtain ⟨state', -, hfilter⟩ := c.filter_group_remarks g d c.decls state
      (nodup_numberDecls c.index 0 c.file.decls) hd
    rw [hfilter, c.map_line_specRemarks, List.range_eq_range']
  · have hturn : ⟨valueDocRule, c⟩ ∈ l.turns files := Linter.mem_turns.mpr ⟨hc, hlisted, by
      rw [FileContext.silences, hgen, Bool.and_false]⟩
    have hturns : ∀ t ∈ l.turns files, t.rule ∈ defaultRules ∧ t.context ∈ l.contexts files := by
      intro t ht
      obtain ⟨hcontext, hr, -⟩ := Linter.mem_turns.mp ht
      exact ⟨hrules _ hr, hcontext⟩
    rw [Linter.rounds, Linter.askingLines_rounds hc hd PassState.empty hturns,
      hasMissingComment_empty]
    simp [hturn]

/-- A constant declaration in parentheses with three lines, of which the first has a comment. -/
def colorDecl : ValueDecl :=
  ⟨.const, ⟨3, 1, 11⟩, true, none,
    [⟨⟨5, 2, 36⟩, [⟨"Red", ⟨5, 2, 36⟩⟩], some ⟨⟨4, 2, 20⟩, 4, "Red is red.\n", ["// Red is red."]⟩⟩,
      ⟨⟨6, 2, 48⟩, [⟨"Green", ⟨6, 2, 48⟩⟩], none⟩, ⟨⟨7, 2, 55⟩, [⟨"Blue", ⟨7, 2, 55⟩⟩], none⟩]⟩

/-- A file with these constants. -/
def colorFile : SourceFile :=
  { SourceFile.empty ⟨"a.go"⟩ "a" with decls := [.value colorDecl] }

/-- The rules of a linter that lists the rule twice, with another between. -/
def twiceListed : List Rule :=
  [valueDocRule, funcDocRule, valueDocRule]

/-- The rule looks at the file twice, and once it reports the first of the two lines without
comments. -/
theorem valueDocRule_rounds_colorFile :
    (∀ r ∈ twiceListed, r ∈ defaultRules) ∧ valueDocRule ∈ twiceListed ∧
    ((Linter.ofRules twiceListed).rounds [colorFile]).length = 2 ∧
    askingLines ⟨0, 0⟩ (((Linter.ofRules twiceListed).rounds [colorFile]).flatMap Prod.snd) =
      [1] := by
  have hrules : ∀ r ∈ twiceListed, r ∈ defaultRules := by simp [twiceListed, defaultRules]
  have hlisted : valueDocRule ∈ twiceListed := List.mem_cons_self
  obtain ⟨-, hlooks, -, hlines, -⟩ :=
    Linter.valueDocRule_rounds (Linter.ofRules twiceListed) [colorFile] hrules hlisted
  refine ⟨hrules, hlisted, ?_, ?_⟩
  · rw [← List.length_map Prod.fst, hlooks]
    rfl
  · exact (hlines _ List.mem_cons_self rfl ⟨0, 0⟩ colorDecl List.mem_cons_self).2

end GoStyle
