import Mathlib.Data.List.Forall2
import GoStyle.Lint.DefaultRules
import GoStyle.Proofs.Agreement
import GoStyle.Proofs.Cuts
import GoStyle.Proofs.DeclaredNames
import GoStyle.Proofs.TypeDocs

/-!
# Replacement lines

A problem may come with the line as it should be. Only the rule on names has such problems, and only
where the mixed form of a declared name is another name. In a file that is read from a text the line
is then the one where the name is declared, with the new name in place of the old one there, which
begins at the column of the problem, and with everything before and behind as it was
(`FileContext.Respells`). Columns are counted in bytes and the name is cut out by bytes, so other
characters of the line do not matter, nor does it matter whether the name occurs more than once.

That names are found at their columns is what the file says about its text (`SourceFile.Agrees`);
without it a replacement could be missing. All other problems are plain: they are stated by
`FileContext.problem`, with a link or without.
-/

namespace GoStyle

/-! ## Problems without replacements -/

section Plain

variable {c : FileContext} {p : Problem} {ps : List Problem}

theorem replacement_packageDocForm {doc : CommentGroup} (h : p ∈ c.packageDocForm doc) :
    p.replacement = none := by
  rcases List.mem_append.mp h with h | h <;>
  · rw [List.mem_singleton.mp (List.mem_ite_nil_right.mp h).2]
    rfl

theorem replacement_packageDoc (h : p ∈ c.packageDoc) : p.replacement = none := by
  unfold FileContext.packageDoc at h
  split at h
  · exact replacement_packageDocForm h
  · split at h
    · cases h
    · rw [List.mem_singleton.mp h]
      rfl

theorem replacement_packageComment (h : c.packageComment = .ok ps) :
    ∀ p ∈ ps, p.replacement = none := by
  unfold FileContext.packageComment at h
  split at h
  · cases h
    simp
  · split at h
    · cases h
      exact fun p => replacement_packageDoc
    · split_ifs at h
      · cases h
        intro p hp
        rw [List.mem_singleton.mp hp]
        rfl
      · cases h
        exact fun p => replacement_packageDoc

theorem replacement_typeDoc {name : Ident} {doc : Option CommentGroup}
    (h : c.typeDoc name doc = some p) : p.replacement = none := by
  unfold FileContext.typeDoc at h
  split at h
  · cases h
  · split at h
    · cases h
      rfl
    · split at h <;> cases h
      rfl

theorem replacement_titledFuncDoc {f : FuncDecl} {title : String}
    (h : c.titledFuncDoc f title = some p) : p.replacement = none := by
  unfold FileContext.titledFuncDoc at h
  split at h
  · cases h
    rfl
  · split at h <;> cases h
    rfl

theorem replacement_commentedValue {g : GroupId} {d : ValueDecl} {spec : ValueSpec} {name : String}
    {s : PassState} (h : (c.commentedValue g d spec name s).1 = some p) :
    p.replacement = none := by
  unfold FileContext.commentedValue at h
  dsimp only at h
  split at h
  · split at h <;> cases h
    rfl
  · split at h <;> cases h
    rfl
  · split at h
    · cases h
    · split at h <;> cases h
      rfl

theorem replacement_valueDoc {g : GroupId} {d : ValueDecl} {spec : ValueSpec} {s : PassState}
    (h : (c.valueDoc g d spec s).1 = some p) : p.replacement = none := by
  unfold FileContext.valueDoc at h
  split at h
  · cases h
    rfl
  · split at h
    · cases h
    · split at h
      · exact replacement_commentedValue h
      · cases h

theorem replacement_valueSpecDocs {g : GroupId} {d : ValueDecl} : ∀ (specs : List ValueSpec)
    (s : PassState), ∀ p ∈ (c.valueSpecDocs g d specs s).1, p.replacement = none
  | [], _, p, hp => by cases hp
  | spec :: specs, s, p, hp => by
    rcases List.mem_append.mp hp with hp | hp
    · exact replacement_valueDoc (Option.mem_toList.mp hp)
    · exact replacement_valueSpecDocs specs _ p hp

theorem replacement_valueDocs : ∀ (ds : List (GroupId × Decl)) (s : PassState),
    ∀ p ∈ (c.valueDocs ds s).1, p.replacement = none
  | [], _, p, hp => by cases hp
  | (g, .value d) :: ds, s, p, hp => by
    rcases List.mem_append.mp hp with hp | hp
    · exact replacement_valueSpecDocs d.specs s p hp
    · exact replacement_valueDocs ds _ p hp
  | (_, .type _) :: ds, s, p, hp => replacement_valueDocs ds s p hp
  | (_, .func _) :: ds, s, p, hp => replacement_valueDocs ds s p hp

theorem replacement_declaredStutter {d : DeclaredName} (h : c.declaredStutter d = some p) :
    p.replacement = none := by
  unfold FileContext.declaredStutter FileContext.stutter at h
  split_ifs at h
  obtain ⟨rest, -, rfl⟩ := Option.map_eq_some_iff.mp h
  rfl

theorem replacement_receiverName {f : FuncDecl} (h : c.receiverName f = some p) :
    p.replacement = none := by
  obtain ⟨name, -, h⟩ := Option.bind_eq_some_iff.mp h
  obtain ⟨text, -, rfl⟩ := Option.map_eq_some_iff.mp h
  rfl

/-- Only the rule on names has problems with replacements. -/
theorem replacement_of_ne_namesRule {r : Rule} (hr : r ∈ defaultRules) (hne : r ≠ namesRule)
    {s : PassState} (h : (r.check c s).1 = .ok ps) : ∀ p ∈ ps, p.replacement = none := by
  simp only [defaultRules, List.mem_cons, List.not_mem_nil, or_false] at hr
  rcases hr with rfl | rfl | rfl | rfl | rfl | rfl | rfl
  · exact replacement_packageComment h
  · cases h
    intro p hp
    obtain ⟨d, -, hp⟩ := List.mem_flatMap.mp hp
    rw [c.typeDocs_eq d] at hp
    obtain ⟨t, -, ht⟩ := List.mem_filterMap.mp hp
    exact replacement_typeDoc ht
  · cases h
    intro p hp
    obtain ⟨f, -, hf⟩ := List.mem_filterMap.mp hp
    obtain ⟨title, -, htitle⟩ := Option.bind_eq_some_iff.mp hf
    exact replacement_titledFuncDoc htitle
  · cases h
    exact replacement_valueDocs c.decls s
  · cases h
    intro p hp
    change p ∈ c.file.decls.flatMap c.stutters at hp
    rw [c.flatMap_stutters] at hp
    obtain ⟨d, -, hd⟩ := List.mem_filterMap.mp hp
    exact replacement_declaredStutter hd
  · exact absurd rfl hne
  · cases h
    intro p hp
    obtain ⟨f, -, hf⟩ := List.mem_filterMap.mp hp
    exact replacement_receiverName hf

/-! ## The rule on names -/

theorem replacement_packageNameFaults (h : p ∈ c.packageNameFaults) : p.replacement = none := by
  rcases List.mem_append.mp h with h | h <;>
  · rw [List.mem_singleton.mp (List.mem_ite_nil_right.mp h).2]
    rfl

/-- Whether a problem is that a name has a leading `k`, which leaves the line alone. -/
def Problem.IsLeadingK (p : Problem) : Prop :=
  "don't use leading k in Go names; ".toList <+: p.text.toList ∧ p.replacement = none

theorem isLeadingK_leadingK {kind : ValueKind} {id : Ident} (h : c.leadingK kind id = some p) :
    p.IsLeadingK := by
  obtain ⟨new, -, rfl⟩ := Option.map_eq_some_iff.mp h
  refine ⟨?_, rfl⟩
  simp only [FileContext.problem, Problem.withLink, String.append_assoc]
  rw [String.toList_append]
  exact List.prefix_append _ _

end Plain

namespace FileContext

variable (c : FileContext)

/-- Whether nothing is said about a declared name, whatever its form. -/
def Spares (d : DeclaredName) : Prop :=
  (c.file.isTest && d.isForTests) = true ∨ d.ident.name = "_" ∨
    c.policy.isKnownException d.ident.name = true

/-- A problem of a declared name that should be another, in a file with the given text. -/
structure Respells (content : String) (d : DeclaredName) (new : String) (p : Problem) : Prop where
  position : p.position =
    ⟨c.file.path, d.ident.pos.line, d.ident.pos.column, d.ident.pos.offset⟩
  text : ∃ lead ∈ ["", "don't use underscores in Go names; "], p.text =
    lead ++ d.kind.word ++ " " ++ d.ident.name ++ " should be " ++ new
  lineText : p.lineText = lineAt content p.position.line
  /-- The name stands at the column, which counts bytes from 1, and is replaced there. -/
  replacement : ∃ before after, p.lineText = before ++ d.ident.name ++ after ∧
    before.utf8ByteSize + 1 = p.position.column ∧
    p.replacement = some (before ++ new ++ after)

/-- The problems with a declared name. Only that with a name whose mixed form is another has a
replacement. -/
inductive JudgesSpelling (content : String) (d : DeclaredName) : List Problem → Prop
  | spared : c.Spares d → JudgesSpelling content d []
  | capitals {p} : ¬c.Spares d → isAllCaps d.ident.name.toList →
    p.text = "don't use ALL_CAPS in Go names; use CamelCase" → p.replacement = none →
    JudgesSpelling content d [p]
  | kept {others} : ¬c.Spares d → isAllCaps d.ident.name.toList = false →
    mixedCaps d.ident.name.toList = .ok d.ident.name.toList → (∀ q ∈ others, q.IsLeadingK) →
    JudgesSpelling content d others
  | respelled {others new p} : ¬c.Spares d → isAllCaps d.ident.name.toList = false →
    mixedCaps d.ident.name.toList = .ok new.toList → new ≠ d.ident.name →
    (∀ q ∈ others, q.IsLeadingK) → c.Respells content d new p →
    JudgesSpelling content d (others ++ [p])

variable {c} {content : String} {d : DeclaredName}

/-- The replacement of a name that is found at its column in its line. -/
theorem respells_renaming (hcontent : c.file.content = content)
    (hline : d.ident.OnLine c.file.line) (new : String) :
    c.Respells content d new (c.renaming d.kind.word d.ident new) := by
  obtain ⟨before, after, hfound, hcolumn⟩ := hline
  have hreplaced : replaceAt? (c.file.line d.ident.pos.line) d.ident.pos.column d.ident.name new =
      some (before ++ new ++ after) :=
    replaceAt?_eq_some_iff.mpr ⟨before, after, hfound, hcolumn, rfl⟩
  have hlineText : c.file.line d.ident.pos.line = lineAt content d.ident.pos.line :=
    congrArg (lineAt · d.ident.pos.line) hcontent
  unfold FileContext.renaming
  split
  · refine ⟨rfl, ⟨"don't use underscores in Go names; ", by simp, ?_⟩, hlineText, before, after,
      hfound, hcolumn, hreplaced⟩
    simp only [String.append_assoc]
    rfl
  · refine ⟨rfl, ⟨"", by simp, ?_⟩, hlineText, before, after, hfound, hcolumn, hreplaced⟩
    rw [String.empty_append]
    rfl

/-- There is no other replacement, for the name is at the column. -/
theorem Respells.replacement_eq {new : String} {p : Problem} (h : c.Respells content d new p) :
    p.replacement = replaceAt? (lineAt content d.ident.pos.line) d.ident.pos.column d.ident.name
      new := by
  obtain ⟨before, after, hfound, hcolumn, hreplaced⟩ := h.replacement
  rw [h.lineText, h.position] at hfound
  rw [h.position] at hcolumn
  rw [hreplaced, replaceAt?_eq_some_iff.mpr ⟨before, after, hfound, hcolumn, rfl⟩]

/-- A name whose mixed form is another has a problem with a replacement, unless it is spared or in
capitals. -/
theorem JudgesSpelling.exists_respells {found : List Problem}
    (h : c.JudgesSpelling content d found) {new : String} (hspares : ¬c.Spares d)
    (hcaps : isAllCaps d.ident.name.toList = false)
    (hnew : mixedCaps d.ident.name.toList = .ok new.toList) (hne : new ≠ d.ident.name) :
    ∃ p ∈ found, c.Respells content d new p := by
  cases h with
  | spared hspared => exact absurd hspared hspares
  | capitals _ hcaps' =>
    rw [hcaps] at hcaps'
    cases hcaps'
  | kept _ _ hkept =>
    exact absurd (String.toList_inj.mp (Except.ok.inj (hnew.symm.trans hkept))) hne
  | @respelled others new' p _ _ hnew' _ _ hp =>
    obtain rfl : new = new' := String.toList_inj.mp (Except.ok.inj (hnew.symm.trans hnew'))
    exact ⟨p, List.mem_append_right _ List.mem_cons_self, hp⟩

theorem judgesSpelling_of_declaredFaults (hcontent : c.file.content = content)
    (hline : d.ident.OnLine c.file.line) {found : List Problem}
    (h : c.declaredFaults d = .ok found) : c.JudgesSpelling content d found := by
  have hleading : ∀ q ∈ (d.kind.value?.bind fun kind => c.leadingK kind d.ident).toList,
      q.IsLeadingK := by
    intro q hq
    obtain ⟨kind, -, hq⟩ := Option.bind_eq_some_iff.mp (Option.mem_toList.mp hq)
    exact isLeadingK_leadingK hq
  unfold declaredFaults nameFaults at h
  split_ifs at h with htest hexempt hcaps
  · cases h
    exact .spared (Or.inl htest)
  · cases h
    exact .spared (Or.inr hexempt)
  · cases h
    exact .capitals (not_or.mpr ⟨htest, hexempt⟩) hcaps rfl rfl
  · have hspares : ¬c.Spares d := not_or.mpr ⟨htest, hexempt⟩
    rw [Bool.not_eq_true] at hcaps
    dsimp only at h
    cases hnew : mixedCaps d.ident.name.toList with
    | error e =>
      rw [hnew] at h
      cases h
    | ok new =>
      rw [hnew] at h
      dsimp only at h
      split_ifs at h with hsame
      · cases h
        exact .kept hspares hcaps (hsame ▸ hnew) hleading
      · cases h
        refine .respelled hspares hcaps (by rwa [String.toList_ofList])
          (fun hname => hsame ?_) hleading (respells_renaming hcontent hline _)
        rw [← hname, String.toList_ofList]

end FileContext

theorem ident_mem_idents {file : SourceFile} {d : DeclaredName} (h : d ∈ file.declared) :
    d.ident ∈ file.idents := by
  obtain ⟨decl, hdecl, hd⟩ := List.mem_flatMap.mp h
  have hlandmark : d.ident ∈ decl.landmarks := by
    cases decl with
    | type t =>
      obtain ⟨spec, hspec, rfl⟩ := List.mem_map.mp hd
      exact List.mem_cons_of_mem _ (List.mem_map_of_mem hspec)
    | func f =>
      rw [List.mem_singleton.mp hd]
      simp [Decl.landmarks]
    | value v =>
      obtain ⟨id, hid, rfl⟩ := List.mem_map.mp hd
      exact List.mem_cons_of_mem _ hid
  refine List.mem_cons_of_mem _ (List.mem_cons_of_mem _ (List.mem_flatMap.mpr ⟨decl, hdecl, ?_⟩))
  exact List.mem_append_left _ hlandmark

/-- A text with carriage returns, in which a name occurs more than once on a line, behind a letter
of two bytes. -/
def repeatedText : String :=
  "package a\r\n\r\nvar é, user_id = \"user_id\", user_id\r\n"

/-- The names that the text declares. -/
def repeatedNames : List DeclaredName :=
  [⟨.value .var, ⟨"é", ⟨3, 5, 17⟩⟩⟩, ⟨.value .var, ⟨"user_id", ⟨3, 9, 21⟩⟩⟩]

end GoStyle
