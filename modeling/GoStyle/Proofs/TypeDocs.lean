import Mathlib.Data.List.Forall2
import Mathlib.Data.List.Infix
import Mathlib.Data.List.ReduceOption
import GoStyle.Lint.Rules.TypeDoc
import GoStyle.Proofs.Cuts

/-!
# Comments on types

What the rule on comments of types has to say, type by type (`FileContext.Judges`): nothing about a
type that is not exported or whose comment is accepted, one problem otherwise. The comment in force
is that of the type or else that of its declaration.

A comment introduces a name that it begins with, directly or behind an article (`Introduces`). The
rule accepts these comments, but for those that begin with a name of which an article is the
beginning, `A` itself for instance: there the article is taken away first, and what is left does not
begin with the name (`Mistaken`).
-/

namespace GoStyle

/-! ## Comments that introduce a name -/

/-- The articles that may stand in front of a name, each with the space behind it. -/
def articles : List (List Char) :=
  ["A ".toList, "An ".toList, "The ".toList]

/-- Whether a text begins with a name and a space, or does so behind an article. -/
def Introduces (name text : List Char) : Prop :=
  name ++ [' '] <+: text ∨ ∃ a ∈ articles, a ++ (name ++ [' ']) <+: text

/-- Whether a text begins with a name and a space, but its beginning is taken for an article, behind
which the name does not stand again. -/
def Mistaken (name text : List Char) : Prop :=
  name ++ [' '] <+: text ∧ (∃ a ∈ articles, a <+: name ++ [' ']) ∧
    ∀ a ∈ articles, ¬a ++ (name ++ [' ']) <+: text

theorem Mistaken.introduces {name text : List Char} (h : Mistaken name text) :
    Introduces name text :=
  Or.inl h.1

/-- A text does not begin with two articles. -/
theorem article_unique {a b text : List Char} (ha : a ∈ articles) (hb : b ∈ articles)
    (hat : a <+: text) (hbt : b <+: text) : a = b := by
  have htried : ∀ a ∈ articles, ∀ b ∈ articles, a <+: b → a = b := by decide
  rcases List.prefix_or_prefix_of_prefix hat hbt with hab | hba
  · exact htried a ha b hb hab
  · exact (htried b hb a ha hba).symm

/-- An article has no space but the one behind it. -/
theorem article_prefix_of_prefix {a name : List Char} (ha : a ∈ articles)
    (h : name ++ [' '] <+: a) : a <+: name ++ [' '] := by
  have htried : ∀ a ∈ articles, ∀ p ∈ a.inits, p.getLast? = some ' ' → p = a := by decide
  have heq := htried a ha (name ++ [' ']) ((List.mem_inits _ _).mpr h) (by simp)
  rw [heq]

theorem afterArticle?_eq_some_iff {text rest : List Char} :
    afterArticle? text = some rest ↔ ∃ a ∈ articles, text = a ++ rest := by
  have hfind : afterArticle? text = articles.findSome? fun a => after? a text := rfl
  constructor
  · intro h
    obtain ⟨a, ha, hafter⟩ := List.exists_of_findSome?_eq_some (hfind ▸ h)
    exact ⟨a, ha, after?_eq_some_iff.mp hafter⟩
  · rintro ⟨a, ha, rfl⟩
    cases hfound : articles.findSome? fun b => after? b (a ++ rest) with
    | none =>
      have hnone := List.findSome?_eq_none_iff.mp hfound a ha
      rw [after?_eq_some_iff.mpr rfl] at hnone
      cases hnone
    | some rest' =>
      obtain ⟨b, hb, hafter⟩ := List.exists_of_findSome?_eq_some hfound
      have htext := after?_eq_some_iff.mp hafter
      obtain rfl := article_unique ha hb (List.prefix_append a rest) ⟨rest', htext.symm⟩
      rw [hfind, hfound, List.append_cancel_left htext]

/-- What is accepted as the beginning of the comment on a type. -/
theorem prefix_withoutArticle_iff {name text : List Char} :
    name ++ [' '] <+: withoutArticle text ↔ Introduces name text ∧ ¬Mistaken name text := by
  unfold withoutArticle
  cases harticle : afterArticle? text with
  | none =>
    have hnone : ∀ a ∈ articles, ¬a <+: text := by
      rintro a ha ⟨rest, htext⟩
      rw [afterArticle?_eq_some_iff.mpr ⟨a, ha, htext.symm⟩] at harticle
      cases harticle
    constructor
    · intro h
      exact ⟨Or.inl h, fun ⟨_, ⟨a, ha, han⟩, _⟩ => hnone a ha (han.trans h)⟩
    · rintro ⟨h | ⟨a, ha, han⟩, -⟩
      · exact h
      · exact absurd ((List.prefix_append a _).trans han) (hnone a ha)
  | some rest =>
    obtain ⟨a, ha, rfl⟩ := afterArticle?_eq_some_iff.mp harticle
    have hbehind : ∀ b ∈ articles, b ++ (name ++ [' ']) <+: a ++ rest → name ++ [' '] <+: rest := by
      intro b hb h
      rw [article_unique hb ha ((List.prefix_append b _).trans h) (List.prefix_append a rest)] at h
      exact (List.prefix_append_right_inj a).mp h
    rw [Option.getD_some]
    constructor
    · intro h
      have htext := (List.prefix_append_right_inj a).mpr h
      exact ⟨Or.inr ⟨a, ha, htext⟩, fun hmistaken => hmistaken.2.2 a ha htext⟩
    · rintro ⟨h | ⟨b, hb, h⟩, hmistaken⟩
      · by_contra hrest
        refine hmistaken ⟨h, ⟨a, ha, ?_⟩, fun b hb hbn => hrest (hbehind b hb hbn)⟩
        rcases List.prefix_or_prefix_of_prefix (List.prefix_append a rest) h with han | hna
        · exact han
        · exact article_prefix_of_prefix ha hna
      · exact hbehind b hb h

/-! ## Verdicts -/

/-- The types that a declaration declares, with the comments in force. -/
def Decl.types : Decl → List (Ident × Option CommentGroup)
  | .type d => d.specs.map fun s => (s.name, s.doc.or d.doc)
  | _ => []

namespace FileContext

variable (c : FileContext)

/-- A problem of comments with the given text at a point of the file. -/
structure Reports (p : Problem) (pos : Pos) (confidence : Float) (text : String) : Prop where
  position : p.position = ⟨c.file.path, pos.line, pos.column, pos.offset⟩
  category : p.category = commentsCategory
  confidence : p.confidence = confidence
  text : p.text = text

/-- What there is to say about a type and the comment in force for it, if the comments that stand
with a name are those which `accepts` tells. -/
inductive Judges (accepts : List Char → List Char → Prop) (name : Ident) :
    Option CommentGroup → Option Problem → Prop
  | unexported {doc} : name.isExported = false → Judges accepts name doc none
  | accepted {doc} : name.isExported → accepts name.name.toList doc.text.toList →
    Judges accepts name (some doc) none
  | missing {p} : name.isExported → c.Reports p name.pos 1.0
      ("exported type " ++ name.name ++ " should have comment or be unexported") →
    Judges accepts name none (some p)
  | malformed {doc p} : name.isExported → ¬accepts name.name.toList doc.text.toList →
    c.Reports p doc.pos 0.8 ("comment on exported type " ++ name.name ++
      " should be of the form \"" ++ name.name ++ " ...\" (with optional leading article)") →
    Judges accepts name (some doc) (some p)

variable {c} {accepts accepts' : List Char → List Char → Prop} {name : Ident}
  {doc : Option CommentGroup} {verdict : Option Problem}

/-- A verdict stands for whoever accepts the same comment. -/
theorem Judges.congr_iff (h : c.Judges accepts name doc verdict) :
    c.Judges accepts' name doc verdict ↔ (name.isExported → ∀ g ∈ doc,
      (accepts name.name.toList g.text.toList ↔ accepts' name.name.toList g.text.toList)) := by
  cases h with
  | unexported hname =>
    refine iff_of_true (.unexported hname) fun hexported => ?_
    rw [hname] at hexported
    cases hexported
  | missing hname hp => exact iff_of_true (.missing hname hp) fun _ _ hg => absurd hg (by simp)
  | @accepted doc hname hdoc =>
    constructor
    · rintro (hno | ⟨-, hdoc'⟩) - g hg
      · rw [hname] at hno
        cases hno
      · obtain rfl := Option.some.inj hg
        exact iff_of_true hdoc hdoc'
    · exact fun hiff => .accepted hname ((hiff hname doc rfl).mp hdoc)
  | @malformed doc p hname hdoc hp =>
    constructor
    · rintro (_ | _ | _ | ⟨-, hdoc', -⟩) - g hg
      obtain rfl := Option.some.inj hg
      exact iff_of_false hdoc hdoc'
    · exact fun hiff => .malformed hname (fun hdoc' => hdoc ((hiff hname doc rfl).mpr hdoc')) hp

theorem judges_typeDoc (c : FileContext) (name : Ident) (doc : Option CommentGroup) :
    c.Judges (fun name text => Introduces name text ∧ ¬Mistaken name text) name doc
      (c.typeDoc name doc) := by
  unfold typeDoc
  split
  · rename_i hname
    exact .unexported (by simpa using hname)
  · rename_i hname
    rw [Bool.not_eq_true', Bool.not_eq_false] at hname
    have haccepted (g : CommentGroup) :
        (name.name ++ " ").toList.isPrefixOf (withoutArticle g.text.toList) ↔
          Introduces name.name.toList g.text.toList ∧ ¬Mistaken name.name.toList g.text.toList := by
      rw [List.isPrefixOf_iff_prefix, String.toList_append]
      exact prefix_withoutArticle_iff
    cases doc with
    | none => exact .missing hname ⟨rfl, rfl, rfl, rfl⟩
    | some g =>
      dsimp only
      split
      · rename_i hprefix
        exact .accepted hname ((haccepted g).mp hprefix)
      · rename_i hprefix
        exact .malformed hname (mt (haccepted g).mpr hprefix) ⟨rfl, rfl, rfl, rfl⟩

theorem typeDocs_eq (c : FileContext) (d : Decl) :
    c.typeDocs d = d.types.filterMap fun t => c.typeDoc t.1 t.2 := by
  cases d with
  | type d =>
    rw [Decl.types, List.filterMap_map]
    rfl
  | func d => rfl
  | value d => rfl

/-- The rule has one verdict on each type of a file, in order, and its problems are those of the
verdicts. A comment is accepted if it introduces the name and the name is not mistaken for an
article, so that the verdicts are those on comments that introduce names exactly if no name is. -/
theorem typeDocRule_verdicts (c : FileContext) (s : PassState) :
    ∃ verdicts, typeDocRule.check c s = (.ok verdicts.reduceOption, s) ∧
      List.Forall₂
        (fun t => c.Judges (fun name text => Introduces name text ∧ ¬Mistaken name text) t.1 t.2)
        (c.file.decls.flatMap Decl.types) verdicts ∧
      (List.Forall₂ (fun t => c.Judges Introduces t.1 t.2) (c.file.decls.flatMap Decl.types)
          verdicts ↔
        ∀ t ∈ c.file.decls.flatMap Decl.types, t.1.isExported →
          ∀ g ∈ t.2, ¬Mistaken t.1.name.toList g.text.toList) := by
  refine ⟨(c.file.decls.flatMap Decl.types).map fun t => c.typeDoc t.1 t.2, ?_, ?_, ?_⟩
  · have hfound : c.file.decls.flatMap c.typeDocs =
        (c.file.decls.flatMap Decl.types).filterMap fun t => c.typeDoc t.1 t.2 := by
      rw [List.filterMap_flatMap]
      exact List.flatMap_congr fun d _ => c.typeDocs_eq d
    rw [List.reduceOption, List.filterMap_map, Function.id_comp, ← hfound]
    rfl
  · rw [List.forall₂_map_right_iff, List.forall₂_same]
    exact fun t _ => c.judges_typeDoc t.1 t.2
  · rw [List.forall₂_map_right_iff, List.forall₂_same]
    refine forall₂_congr fun t _ => (c.judges_typeDoc t.1 t.2).congr_iff.trans ?_
    refine forall_congr' fun _ => forall₂_congr fun g _ => ?_
    exact ⟨fun h hmistaken => (h.mpr hmistaken.introduces).2 hmistaken,
      fun h => and_iff_left_of_imp fun _ => h⟩

end FileContext

/-- A file that declares a type `A`, with a comment that begins with the name. -/
def articleFile : SourceFile :=
  { SourceFile.empty ⟨"a.go"⟩ "a" with
    decls := [.type ⟨⟨4, 1, 28⟩, false, some ⟨⟨3, 1, 11⟩, 3, "A is a thing.\n", ["// A is a thing."]⟩,
      [⟨⟨"A", ⟨4, 6, 33⟩⟩, none⟩]⟩] }

/-- A comment that introduces the name of a type may be reported. -/
theorem typeDocRule_reports_article : ¬∀ (c : FileContext) (s : PassState), ∃ verdicts,
    typeDocRule.check c s = (.ok verdicts.reduceOption, s) ∧
      List.Forall₂ (fun t => c.Judges Introduces t.1 t.2) (c.file.decls.flatMap Decl.types)
        verdicts := by
  intro h
  let c : FileContext :=
    ⟨articleFile, 0, PackageContext.build [articleFile] ⟨[], []⟩, ⟨[], []⟩⟩
  obtain ⟨verdicts, hcheck, hjudged⟩ := h c PassState.empty
  have hreported : ∃ p, typeDocRule.check c PassState.empty = (.ok [p], PassState.empty) :=
    ⟨_, rfl⟩
  obtain ⟨p, hp⟩ := hreported
  obtain ⟨v, vs, hv, hvs, rfl⟩ := List.forall₂_cons_left_iff.mp hjudged
  obtain rfl := List.forall₂_nil_left_iff.mp hvs
  rw [hp] at hcheck
  cases hv with
  | unexported hname => revert hname; decide
  | accepted => simp at hcheck
  | malformed _ hdoc => exact hdoc (Or.inl (by decide))

end GoStyle
