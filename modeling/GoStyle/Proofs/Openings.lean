import Mathlib.Data.List.Pairwise
import GoStyle.Lint.DefaultRules
import GoStyle.Proofs.Gathering
import GoStyle.Proofs.Turns

/-!
# Openings

What rules say begins in one of a few ways, each with a confidence of its own (`openings`). None of
them is the beginning of another (`openings_incomparable`), so problems with the same text have the
same confidence (`confidence_eq_of_text_eq`), whatever names have been put into the text. `Voices`
is what holds of every problem that a rule has with a file; that it does is one short lemma for each
rule, and `voices_of_check` for all of them.
-/

namespace GoStyle

/-! ## Beginnings -/

/-- The things that names are given to, as problems call them. -/
def things : List String :=
  ["type", "func", "method", "const", "var"]

/-- How the texts of problems begin, and how confident rules are in what begins so. -/
def openings : List (String × Float) :=
  [("package comment is detached", 0.9), ("package comment should not", 1.0),
    ("package comment should be", 1.0), ("should have a package comment", 0.2), ("exported ", 1.0),
    ("comment on exported ", 0.8), ("don't use an underscore", 1.0), ("don't use MixedCaps", 1.0),
    ("don't use ALL_CAPS", 0.8), ("don't use leading k", 0.8), ("don't use underscores", 0.9),
    ("receiver name ", 1.0)] ++ things.map fun thing => (thing ++ " ", 0.8)

/-- No text begins in two of these ways. -/
theorem openings_incomparable : openings.Pairwise fun o o' =>
    ¬o.1.toList <+: o'.1.toList ∧ ¬o'.1.toList <+: o.1.toList := by
  decide

/-- A text begins in one way only. -/
theorem opening_unique {o o' : String × Float} (ho : o ∈ openings) (ho' : o' ∈ openings)
    {text : List Char} (h : o.1.toList <+: text) (h' : o'.1.toList <+: text) : o = o' := by
  by_contra hne
  have hsymm : Std.Symm fun o o' : String × Float =>
      ¬o.1.toList <+: o'.1.toList ∧ ¬o'.1.toList <+: o.1.toList := ⟨fun _ _ h => h.symm⟩
  obtain ⟨hno, hno'⟩ := openings_incomparable.forall ho ho' hne
  rcases List.prefix_or_prefix_of_prefix h h' with hpre | hpre
  · exact hno hpre
  · exact hno' hpre

theorem prefix_of_literal {o l : List Char} (h : o <+: l) (t : List Char) : o <+: l ++ t :=
  h.trans (List.prefix_append l t)

/-- What holds of every problem that a rule of the given category has with a file. -/
structure FileContext.Voices (c : FileContext) (category : String) (p : Problem) : Prop where
  file : p.position.file = c.file.path
  lineText : p.lineText = c.file.line p.position.line
  category : p.category = category
  opening : ∃ o ∈ openings, o.1.toList <+: p.text.toList ∧ p.confidence = o.2

/-- Problems that rules have with files are as confident as their texts say. -/
theorem FileContext.Voices.confidence_eq {c c' : FileContext} {category category' : String}
    {p q : Problem} (hp : c.Voices category p) (hq : c'.Voices category' q) (h : p.text = q.text) :
    p.confidence = q.confidence := by
  obtain ⟨o, ho, hpre, hconf⟩ := hp.opening
  obtain ⟨o', ho', hpre', hconf'⟩ := hq.opening
  rw [h] at hpre
  rw [hconf, hconf', opening_unique ho ho' hpre hpre']

theorem FileContext.Voices.withLink {c : FileContext} {category : String} {p : Problem}
    (h : c.Voices category p) (link : String) : c.Voices category (p.withLink link) :=
  ⟨h.file, h.lineText, h.category, h.opening⟩

section Rules

variable {c : FileContext} {category : String} {pos : Pos}

theorem voices_problem (opening : String) {confidence : Float}
    (ho : (opening, confidence) ∈ openings) {text : String} (h : opening.toList <+: text.toList) :
    c.Voices category (c.problem pos confidence category text) :=
  ⟨rfl, rfl, rfl, _, ho, h, rfl⟩

/-- A problem that calls a thing by its kind and goes on after a space. -/
theorem voices_thing {thing : String} (hthing : thing ∈ things) {text : String}
    (h : thing.toList ++ [' '] <+: text.toList) :
    c.Voices category (c.problem pos 0.8 category text) := by
  refine voices_problem (thing ++ " ") (List.mem_append_right _ (List.mem_map_of_mem hthing)) ?_
  rw [String.toList_append]
  exact h

theorem keyword_mem_things (kind : ValueKind) : kind.keyword ∈ things := by
  cases kind <;> decide

/-! ## Rules on comments -/

theorem voices_packageDocForm (doc : CommentGroup) :
    ∀ p ∈ c.packageDocForm doc, c.Voices commentsCategory p := by
  intro p hp
  unfold FileContext.packageDocForm at hp
  rcases List.mem_append.mp hp with hp | hp
  · split at hp
    · obtain rfl := List.mem_singleton.mp hp
      refine (voices_problem "package comment should not" (by simp [openings]) ?_).withLink _
      simp
    · cases hp
  · split at hp
    · obtain rfl := List.mem_singleton.mp hp
      refine (voices_problem "package comment should be" (by simp [openings]) ?_).withLink _
      simp only [String.toList_append, List.append_assoc]
      exact prefix_of_literal (by simp) _
    · cases hp

theorem voices_packageDoc : ∀ p ∈ c.packageDoc, c.Voices commentsCategory p := by
  intro p hp
  unfold FileContext.packageDoc at hp
  split at hp
  · exact voices_packageDocForm _ p hp
  · split at hp
    · cases hp
    · obtain rfl := List.mem_singleton.mp hp
      refine (voices_problem "should have a package comment" (by simp [openings]) ?_).withLink _
      simp

theorem voices_packageComment {ps : List Problem} (h : c.packageComment = .ok ps) :
    ∀ p ∈ ps, c.Voices commentsCategory p := by
  unfold FileContext.packageComment at h
  split at h
  · cases h
    simp
  · split at h
    · cases h
      exact voices_packageDoc
    · split_ifs at h
      · cases h
        intro p hp
        obtain rfl := List.mem_singleton.mp hp
        refine (voices_problem "package comment is detached" (by simp [openings]) ?_).withLink _
        simp
      · cases h
        exact voices_packageDoc

theorem voices_typeDoc {name : Ident} {doc : Option CommentGroup} {p : Problem}
    (h : c.typeDoc name doc = some p) : c.Voices commentsCategory p := by
  unfold FileContext.typeDoc at h
  split at h
  · cases h
  · split at h
    · cases h
      refine (voices_problem "exported " (by simp [openings]) ?_).withLink _
      simp only [String.toList_append, List.append_assoc]
      exact prefix_of_literal (by simp) _
    · split at h
      · cases h
      · cases h
        refine (voices_problem "comment on exported " (by simp [openings, docFormConfidence])
          ?_).withLink _
        simp only [String.toList_append, List.append_assoc]
        exact prefix_of_literal (by simp) _

theorem voices_titledFuncDoc {f : FuncDecl} {title : String} {p : Problem}
    (h : c.titledFuncDoc f title = some p) : c.Voices commentsCategory p := by
  unfold FileContext.titledFuncDoc at h
  split at h
  · cases h
    refine (voices_problem "exported " (by simp [openings]) ?_).withLink _
    simp only [String.toList_append, List.append_assoc]
    exact prefix_of_literal (by simp) _
  · split at h
    · cases h
    · cases h
      refine (voices_problem "comment on exported " (by simp [openings, docFormConfidence])
        ?_).withLink _
      simp only [String.toList_append, List.append_assoc]
      exact prefix_of_literal (by simp) _

theorem voices_valueForm (keyword name : String) : c.Voices commentsCategory
    ((c.problem pos docFormConfidence commentsCategory
      ("comment on exported " ++ keyword ++ " " ++ name ++ " should be of the form \"" ++
        name ++ " ...\"")).withLink (reviewGuide "doc-comments")) := by
  refine (voices_problem "comment on exported " (by simp [openings, docFormConfidence])
    ?_).withLink _
  simp only [String.toList_append, List.append_assoc]
  exact prefix_of_literal (by simp) _

theorem voices_commentedValue {g : GroupId} {d : ValueDecl} {spec : ValueSpec} {name : String}
    {s : PassState} {p : Problem} (h : (c.commentedValue g d spec name s).1 = some p) :
    c.Voices commentsCategory p := by
  unfold FileContext.commentedValue at h
  dsimp only at h
  split at h
  · split at h
    · cases h
    · cases h
      refine (voices_problem "exported " (by simp [openings]) ?_).withLink _
      simp only [String.toList_append, List.append_assoc]
      exact prefix_of_literal (by simp) _
  · split at h
    · cases h
    · cases h
      exact voices_valueForm _ _
  · split at h
    · cases h
    · split at h
      · cases h
      · cases h
        exact voices_valueForm _ _

theorem voices_valueDoc {g : GroupId} {d : ValueDecl} {spec : ValueSpec} {s : PassState}
    {p : Problem} (h : (c.valueDoc g d spec s).1 = some p) : c.Voices commentsCategory p := by
  unfold FileContext.valueDoc at h
  split at h
  · cases h
    refine voices_problem "exported " (by simp [openings]) ?_
    simp only [String.toList_append, List.append_assoc]
    exact prefix_of_literal (by simp) _
  · split at h
    · cases h
    · split at h
      · exact voices_commentedValue h
      · cases h

theorem voices_valueSpecDocs {g : GroupId} {d : ValueDecl} : ∀ (specs : List ValueSpec)
    (s : PassState), ∀ p ∈ (c.valueSpecDocs g d specs s).1, c.Voices commentsCategory p
  | [], _, p, hp => by cases hp
  | spec :: specs, s, p, hp => by
    rcases List.mem_append.mp hp with hp | hp
    · exact voices_valueDoc (Option.mem_toList.mp hp)
    · exact voices_valueSpecDocs specs _ p hp

theorem voices_valueDocs : ∀ (ds : List (GroupId × Decl)) (s : PassState),
    ∀ p ∈ (c.valueDocs ds s).1, c.Voices commentsCategory p
  | [], _, p, hp => by cases hp
  | (g, .value d) :: ds, s, p, hp => by
    rcases List.mem_append.mp hp with hp | hp
    · exact voices_valueSpecDocs d.specs s p hp
    · exact voices_valueDocs ds _ p hp
  | (_, .type _) :: ds, s, p, hp => voices_valueDocs ds s p hp
  | (_, .func _) :: ds, s, p, hp => voices_valueDocs ds s p hp

/-! ## Rules on names -/

theorem voices_stutter {thing : String} (hthing : thing ∈ things) {id : Ident} {p : Problem}
    (h : c.stutter thing id = some p) : c.Voices namingCategory p := by
  unfold FileContext.stutter at h
  split at h
  · cases h
  · obtain ⟨rest, -, rfl⟩ := Option.map_eq_some_iff.mp h
    refine (voices_thing hthing ?_).withLink _
    simp only [String.toList_append, List.append_assoc, List.prefix_append_right_inj]
    exact prefix_of_literal (by simp) _

theorem voices_packageNameFaults : ∀ p ∈ c.packageNameFaults, c.Voices namingCategory p := by
  intro p hp
  unfold FileContext.packageNameFaults at hp
  rcases List.mem_append.mp hp with hp | hp
  · split at hp
    · obtain rfl := List.mem_singleton.mp hp
      refine (voices_problem "don't use an underscore" (by simp [openings]) ?_).withLink _
      simp
    · cases hp
  · split at hp
    · obtain rfl := List.mem_singleton.mp hp
      refine (voices_problem "don't use MixedCaps" (by simp [openings]) ?_).withLink _
      simp only [String.toList_append, List.append_assoc]
      exact prefix_of_literal (by simp) _
    · cases hp

theorem voices_renaming {thing : String} (hthing : thing ∈ things) (id : Ident) (new : String) :
    c.Voices namingCategory (c.renaming thing id new) := by
  have hadvice : thing.toList ++ [' '] <+:
      (thing ++ " " ++ id.name ++ " should be " ++ new).toList := by
    simp only [String.toList_append, List.append_assoc, List.prefix_append_right_inj]
    exact prefix_of_literal (by simp) _
  have hvoices : ∀ p : Problem, c.Voices namingCategory p → ∀ replacement,
      c.Voices namingCategory { p with replacement } :=
    fun p h _ => ⟨h.file, h.lineText, h.category, h.opening⟩
  unfold FileContext.renaming
  refine hvoices _ ?_ _
  split
  · refine (voices_problem "don't use underscores" (by simp [openings]) ?_).withLink _
    rw [String.toList_append]
    exact prefix_of_literal (by simp) _
  · exact (voices_thing hthing hadvice).withLink _

theorem voices_leadingK {kind : ValueKind} {id : Ident} {p : Problem}
    (h : c.leadingK kind id = some p) : c.Voices namingCategory p := by
  obtain ⟨new, -, rfl⟩ := Option.map_eq_some_iff.mp h
  refine (voices_problem "don't use leading k" (by simp [openings]) ?_).withLink _
  simp only [String.toList_append, List.append_assoc]
  exact prefix_of_literal (by simp) _

theorem voices_nameFaults {thing : String} (hthing : thing ∈ things) {kind? : Option ValueKind}
    {id : Ident} {ps : List Problem} (h : c.nameFaults thing kind? id = .ok ps) :
    ∀ p ∈ ps, c.Voices namingCategory p := by
  have hfirst : ∀ p ∈ (kind?.bind fun kind => c.leadingK kind id).toList,
      c.Voices namingCategory p := by
    intro p hp
    obtain ⟨kind, -, hk⟩ := Option.bind_eq_some_iff.mp (Option.mem_toList.mp hp)
    exact voices_leadingK hk
  unfold FileContext.nameFaults at h
  split at h
  · cases h
    simp
  · split at h
    · cases h
      intro p hp
      obtain rfl := List.mem_singleton.mp hp
      refine (voices_problem "don't use ALL_CAPS" (by simp [openings]) ?_).withLink _
      simp
    · dsimp only at h
      split at h
      · cases h
      · split at h
        · cases h
          exact hfirst
        · cases h
          intro p hp
          rcases List.mem_append.mp hp with hp | hp
          · exact hfirst p hp
          · obtain rfl := List.mem_singleton.mp hp
            exact voices_renaming hthing id _

theorem voices_collectFaults {thing : String} (hthing : thing ∈ things)
    {kind? : Option ValueKind} {ids : List Ident} {ps : List Problem}
    (h : collectFaults (c.nameFaults thing kind?) ids = .ok ps) :
    ∀ p ∈ ps, c.Voices namingCategory p := by
  intro p hp
  rw [collectFaults_eq_gather] at h
  obtain ⟨id, -, found, hfound, hmem⟩ := (mem_of_gather h p).mp hp
  exact voices_nameFaults hthing hfound p hmem

theorem voices_declNameFaults {d : Decl} {ps : List Problem} (h : c.declNameFaults d = .ok ps) :
    ∀ p ∈ ps, c.Voices namingCategory p := by
  cases d with
  | type d => exact voices_collectFaults (by decide) h
  | func f =>
    rw [FileContext.declNameFaults] at h
    split_ifs at h
    · cases h
      simp
    · exact voices_nameFaults (by decide) h
    · exact voices_nameFaults (by decide) h
  | value d => exact voices_collectFaults (keyword_mem_things d.kind) h

theorem voices_names {ps : List Problem} (h : c.names = .ok ps) :
    ∀ p ∈ ps, c.Voices namingCategory p := by
  unfold FileContext.names at h
  split at h
  · cases h
  · rename_i found hfound
    cases h
    intro p hp
    rcases List.mem_append.mp hp with hp | hp
    · exact voices_packageNameFaults p hp
    · rw [FileContext.declsNameFaults_eq_gather] at hfound
      obtain ⟨d, -, found, hd, hmem⟩ := (mem_of_gather hfound p).mp hp
      exact voices_declNameFaults hd p hmem

theorem voices_receiverName {f : FuncDecl} {p : Problem} (h : c.receiverName f = some p) :
    c.Voices namingCategory p := by
  obtain ⟨name, -, h⟩ := Option.bind_eq_some_iff.mp h
  obtain ⟨text, htext, rfl⟩ := Option.map_eq_some_iff.mp h
  refine (voices_problem "receiver name " (by simp [openings]) ?_).withLink _
  unfold PackageContext.receiverFault? at htext
  split at htext
  · cases htext
    simp
  · split at htext
    · cases htext
      simp
    · split at htext
      · cases htext
      · split at htext
        · cases htext
        · split at htext
          · cases htext
          · cases htext
            simp only [String.toList_append, List.append_assoc]
            exact prefix_of_literal (by simp) _

/-! ## All rules -/

/-- What a rule says about a file is in its category, and is said of the line where it stands. -/
theorem voices_of_check {r : Rule} (hr : r ∈ defaultRules) {s : PassState} {ps : List Problem}
    (h : (r.check c s).1 = .ok ps) : ∀ p ∈ ps, c.Voices r.category p := by
  simp only [defaultRules, List.mem_cons, List.not_mem_nil, or_false] at hr
  rcases hr with rfl | rfl | rfl | rfl | rfl | rfl | rfl
  · exact voices_packageComment h
  · cases h
    intro p hp
    obtain ⟨d, -, hp⟩ := List.mem_flatMap.mp hp
    cases d with
    | type d =>
      obtain ⟨spec, -, hspec⟩ := List.mem_filterMap.mp hp
      exact voices_typeDoc hspec
    | func => cases hp
    | value => cases hp
  · cases h
    intro p hp
    obtain ⟨f, -, hf⟩ := List.mem_filterMap.mp hp
    obtain ⟨title, -, htitle⟩ := Option.bind_eq_some_iff.mp hf
    exact voices_titledFuncDoc htitle
  · cases h
    exact voices_valueDocs c.decls s
  · cases h
    intro p hp
    obtain ⟨d, -, hp⟩ := List.mem_flatMap.mp hp
    cases d with
    | type d =>
      obtain ⟨spec, -, hspec⟩ := List.mem_filterMap.mp hp
      exact voices_stutter (by decide) hspec
    | func f =>
      rw [FileContext.stutters] at hp
      split at hp
      · cases hp
      · exact voices_stutter (by decide) (Option.mem_toList.mp hp)
    | value d =>
      obtain ⟨id, -, hid⟩ := List.mem_filterMap.mp hp
      exact voices_stutter (keyword_mem_things d.kind) hid
  · exact voices_names h
  · cases h
    intro p hp
    obtain ⟨f, -, hf⟩ := List.mem_filterMap.mp hp
    exact voices_receiverName hf

end Rules

end GoStyle
