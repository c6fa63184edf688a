import GoStyle.Proofs.Agreement
import GoStyle.Proofs.RuleRuns
import GoStyle.Proofs.TypeDocs

/-!
# Package comments

What the rule on package comments has to say about a file that is no test file
(`FileContext.JudgesPackage`): that its package comment is detached, or what is wrong with the form
of the comment that it has, or that there is none in the whole package. The rule asks whether a
comment is detached before it asks whether the file has a package comment, and yet no file is told
that the comment it has is detached: in a file that is read from a text the package comment is the
last comment before the package clause, and ends on the line above it
(`SourceFile.FromText.packageDoc`). So these cases exclude each other
(`Linter.packageCommentRule_runs`).
-/

namespace GoStyle

/-! ## Files read from texts -/

/-- A file that is read from its text, which has no more bytes than fit into memory. -/
structure SourceFile.FromText (f : SourceFile) : Prop where
  ofText : SourceFile.ofText f.path f.content = .ok f
  size : f.content.utf8ByteSize < twoTo 63

/-- The comment on an item is the last group before it. -/
theorem DocTracker.getLast?_groups {d : DocTracker} {row : ℕ} {g : List Token}
    (h : d.doc? row = some g) : d.groups.getLast? = some g := by
  unfold DocTracker.doc? at h
  split at h
  · cases h
  · rename_i last hlast
    split at h
    · obtain rfl := Option.some.inj h
      have hne : d.pending.isEmpty = false := by
        rw [List.isEmpty_eq_false_iff]
        rintro hnil
        rw [hnil] at hlast
        cases hlast
      rw [DocTracker.groups, hne]
      simp
    · cases h

/-- A place has no more rows than bytes before it. -/
theorem row_le_offset_after : ∀ (s : List Char) {p : Point}, p.row ≤ p.offset →
    (p.after s).row ≤ (p.after s).offset
  | [], _, h => h
  | c :: s, p, h => by
    refine row_le_offset_after s (p := p.step c) ?_
    unfold Point.step
    split
    · exact Nat.succ_le_succ h
    · exact h.trans (Nat.le_add_right _ _)

/-- A part of a text ends on a row that is no greater than the bytes of the text. -/
theorem row_le_utf8ByteSize {t : Token} {content : String} (h : t.StandsIn content.toList) :
    t.stop.row ≤ content.utf8ByteSize := by
  obtain ⟨before, after, hcontent, -, hstop⟩ := h
  have hrow : t.stop.row ≤ t.stop.offset := by
    rw [hstop]
    exact row_le_offset_after _ (Nat.le_refl 0)
  refine hrow.trans ?_
  have hsize := congrArg (fun s => (String.ofList s).utf8ByteSize) hcontent
  rw [String.ofList_toList, utf8ByteSize_ofList_append] at hsize
  rw [hstop, after_zero]
  dsimp only at hsize ⊢
  omega

namespace SourceFile.FromText

variable {f : SourceFile} (h : f.FromText)

include h

/-- The package comment is the last comment before the package clause and ends right above it. -/
theorem packageDoc {doc : CommentGroup} (hdoc : f.packageDoc = some doc) :
    f.leadingComments.getLast? = some doc ∧ doc.endLine + 1 = f.packagePos.line := by
  obtain ⟨-, ts, es, -, hread⟩ := isRead_of_ofText h.ofText
  obtain ⟨comments, -, -, hends⟩ := hread.package.2.1 doc hdoc
  obtain ⟨c, hc, -, hpackageDoc, hleading⟩ := hread.clause
  obtain ⟨before, first, last, after, -, hcdoc, hcbefore⟩ := exists_append_of_mem_commented hc
  rw [hpackageDoc, hcdoc] at hdoc
  obtain ⟨g, hg, rfl⟩ := Option.map_eq_some_iff.mp hdoc
  rw [hleading, hcbefore, List.getLast?_map, DocTracker.getLast?_groups hg]
  exact ⟨rfl, hends⟩

/-- The lines on which comments end can be counted. -/
theorem endLine_lt {g : CommentGroup} (hg : g ∈ f.leadingComments) : g.endLine + 1 < lineLimit := by
  obtain ⟨hcontent, ts, es, hts, hread⟩ := isRead_of_ofText h.ofText
  obtain ⟨comments, hcomments, rfl⟩ := hread.package.2.2 g hg
  have hquotes := quotes_groupOf hts hcomments
  have hlast := List.getLast?_eq_some_getLast hcomments.ne_nil
  rw [hquotes.endLine _ hlast]
  have hrow := row_le_utf8ByteSize
    (hquotes.standsIn _ (List.mem_of_getLast? hlast)).2
  have hsize := h.size
  have hlimit : lineLimit = 2 * twoTo 63 := by decide
  have hlarge : 2 ≤ twoTo 63 := by decide
  change _ + 1 + 1 < _
  omega

end SourceFile.FromText

/-! ## Verdicts -/

/-- Whether a file has no package comment but, above blank lines, a last comment that begins like
one. -/
structure SourceFile.Detached (f : SourceFile) (last : CommentGroup) : Prop where
  packageDoc : f.packageDoc = none
  getLast : f.leadingComments.getLast? = some last
  start : (packageCommentStart f.package.name).toList <+: last.text.toList
  above : last.endLine + 2 ≤ f.packagePos.line

namespace FileContext

variable (c : FileContext)

/-- What there is to say about spaces in front of a package comment. -/
inductive JudgesIndent (doc : CommentGroup) : Option Problem → Prop
  | plain : (∀ a ∈ doc.text.toList.head?, a ≠ ' ' ∧ a ≠ '\t') → JudgesIndent doc none
  | indented {a p} : doc.text.toList.head? = some a → a = ' ' ∨ a = '\t' →
    c.Reports p doc.pos 1.0 "package comment should not have leading space" →
    JudgesIndent doc (some p)

/-- What there is to say about how a package comment begins, spaces apart. Commands may begin theirs
as they like. -/
inductive JudgesStart (doc : CommentGroup) : Option Problem → Prop
  | command : c.packageName = "main" → JudgesStart doc none
  | accepted : (packageCommentStart c.packageName).toList <+:
      doc.text.toList.dropWhile (fun a => a = ' ' ∨ a = '\t') → JudgesStart doc none
  | malformed {p} : c.packageName ≠ "main" → ¬(packageCommentStart c.packageName).toList <+:
      doc.text.toList.dropWhile (fun a => a = ' ' ∨ a = '\t') →
    c.Reports p doc.pos 1.0 ("package comment should be of the form \"" ++
      packageCommentStart c.packageName ++ "...\"") → JudgesStart doc (some p)

/-- What there is to say about the package comment of a file, if `documented` says whether the
package has one. -/
inductive JudgesPackage (documented : Prop) : List Problem → Prop
  | detached {last p} : c.file.Detached last → c.Reports p ⟨last.endLine + 1, 1, 0⟩ 0.9
      ("package comment is detached; " ++
        "there should be no blank lines between it and the package statement") →
    JudgesPackage documented [p]
  | attached {doc indent start} : c.file.packageDoc = some doc → c.JudgesIndent doc indent →
    c.JudgesStart doc start → JudgesPackage documented (indent.toList ++ start.toList)
  | elsewhere : c.file.packageDoc = none → (∀ last, ¬c.file.Detached last) → documented →
    JudgesPackage documented []
  | missing {p} : c.file.packageDoc = none → (∀ last, ¬c.file.Detached last) → ¬documented →
    c.Reports p c.file.packagePos 0.2
      "should have a package comment, unless it's in another file for this package" →
    JudgesPackage documented [p]

variable {c} {documented : Prop}

theorem JudgesPackage.length_le {ps : List Problem} (h : c.JudgesPackage documented ps) :
    ps.length ≤ 2 := by
  cases h with
  | detached | elsewhere | missing => simp
  | @attached _ indent start => cases indent <;> cases start <;> simp

theorem isIndent_eq : isIndent = fun a => decide (a = ' ' ∨ a = '\t') := by
  funext a
  rw [Bool.eq_iff_iff]
  simp [isIndent]

/-- A text loses something when it is dropped from its beginning if it begins with it. -/
theorem length_dropWhile_ne_iff {p : Char → Bool} (s : List Char) :
    (s.dropWhile p).length ≠ s.length ↔ ∃ a, s.head? = some a ∧ p a := by
  cases s with
  | nil => simp
  | cons a s =>
    cases ha : p a with
    | true =>
      have hle := (List.dropWhile_suffix p (l := s)).length_le
      have hne : (s.dropWhile p).length ≠ s.length + 1 := by omega
      simp [ha, hne]
    | false => simp [ha]

/-- The rule has this to say about the form of a package comment. -/
theorem judges_packageDocForm (hmain : c.package.isMain = (c.packageName == "main"))
    (doc : CommentGroup) : ∃ indent start, c.packageDocForm doc = indent.toList ++ start.toList ∧
      c.JudgesIndent doc indent ∧ c.JudgesStart doc start := by
  have hindent : ∃ indent : Option Problem, indent.toList =
      (if (doc.text.toList.dropWhile isIndent).length != doc.text.toList.length then
        [c.packageCommentProblem doc.pos 1.0 "package comment should not have leading space"]
      else []) ∧ c.JudgesIndent doc indent := by
    have hiff := length_dropWhile_ne_iff (p := isIndent) doc.text.toList
    split
    · rename_i hne
      obtain ⟨a, ha, hspace⟩ := hiff.mp (bne_iff_ne.mp hne)
      rw [isIndent_eq, decide_eq_true_iff] at hspace
      exact ⟨some _, rfl, .indented ha hspace ⟨rfl, rfl, rfl, rfl⟩⟩
    · rename_i heq
      refine ⟨none, rfl, .plain fun a ha => ?_⟩
      rw [← not_or, ← decide_eq_true_iff (p := a = ' ' ∨ a = '\t')]
      exact fun hspace => heq (bne_iff_ne.mpr (hiff.mpr ⟨a, ha, by rwa [isIndent_eq]⟩))
  have hstart : ∃ start : Option Problem, start.toList =
      (if !c.package.isMain && !(packageCommentStart c.packageName).toList.isPrefixOf
          (doc.text.toList.dropWhile isIndent) then
        [c.packageCommentProblem doc.pos 1.0 ("package comment should be of the form \"" ++
          packageCommentStart c.packageName ++ "...\"")]
      else []) ∧ c.JudgesStart doc start := by
    rw [hmain, isIndent_eq]
    split
    · rename_i hboth
      simp only [Bool.and_eq_true, Bool.not_eq_true', beq_eq_false_iff_ne] at hboth
      refine ⟨some _, rfl, .malformed hboth.1 (fun hprefix => ?_) ⟨rfl, rfl, rfl, rfl⟩⟩
      rw [List.isPrefixOf_iff_prefix.mpr hprefix] at hboth
      cases hboth.2
    · rename_i hnot
      refine ⟨none, rfl, ?_⟩
      by_cases hcommand : c.packageName = "main"
      · exact .command hcommand
      · refine .accepted (List.isPrefixOf_iff_prefix.mp ?_)
        simpa [hcommand] using hnot
  obtain ⟨indent, hindentList, hindent⟩ := hindent
  obtain ⟨start, hstartList, hstart⟩ := hstart
  refine ⟨indent, start, ?_, hindent, hstart⟩
  rw [hindentList, hstartList]
  rfl

/-- The rule has this to say about a file without a package comment that is not detached, or about
the one that the file has. -/
theorem judges_packageDoc (hmain : c.package.isMain = (c.packageName == "main"))
    (hdocumented : c.package.documented ↔ documented) (hno : ∀ last, ¬c.file.Detached last) :
    c.JudgesPackage documented c.packageDoc := by
  unfold FileContext.packageDoc
  cases hdoc : c.file.packageDoc with
  | some doc =>
    obtain ⟨indent, start, hform, hindent, hstart⟩ := judges_packageDocForm hmain doc
    dsimp only
    rw [hform]
    exact .attached hdoc hindent hstart
  | none =>
    dsimp only
    split_ifs with hd
    · exact .elsewhere hdoc hno (hdocumented.mp hd)
    · exact .missing hdoc hno (mt hdocumented.mpr hd) ⟨rfl, rfl, rfl, rfl⟩

/-- A comment before the package clause begins like a package comment if it is the last one and
begins so. -/
theorem lastCommentLike?_eq_some_iff {f : SourceFile} {last : CommentGroup} :
    f.lastCommentLike? = some last ↔ f.leadingComments.getLast? = some last ∧
      (packageCommentStart f.package.name).toList <+: last.text.toList := by
  rw [SourceFile.lastCommentLike?, Option.filter_eq_some_iff, beginsWith,
    List.isPrefixOf_iff_prefix]

/-- The rule has this to say about a file that is read from a text. -/
theorem exists_packageComment (hread : c.file.FromText) (htest : c.file.isTest = false)
    (hmain : c.package.isMain = (c.packageName == "main"))
    (hdocumented : c.package.documented ↔ documented) :
    ∃ ps, c.packageComment = .ok ps ∧ c.JudgesPackage documented ps := by
  have hjudged := judges_packageDoc (c := c) hmain hdocumented
  unfold FileContext.packageComment
  rw [htest, if_neg Bool.false_ne_true]
  cases hlast : c.file.lastCommentLike? with
  | none =>
    refine ⟨_, rfl, hjudged fun last hdetached => ?_⟩
    rw [lastCommentLike?_eq_some_iff.mpr ⟨hdetached.getLast, hdetached.start⟩] at hlast
    cases hlast
  | some last =>
    obtain ⟨hget, hstart⟩ := lastCommentLike?_eq_some_iff.mp hlast
    have hlimit := hread.endLine_lt (List.mem_of_getLast? hget)
    dsimp only
    rw [if_neg (by omega)]
    split_ifs with habove
    · have hnone : c.file.packageDoc = none := by
        rw [Option.eq_none_iff_forall_not_mem]
        intro doc hdoc
        obtain ⟨hgetDoc, hends⟩ := hread.packageDoc hdoc
        obtain rfl := Option.some.inj (hget.symm.trans hgetDoc)
        omega
      exact ⟨_, rfl, .detached ⟨hnone, hget, hstart, habove⟩ ⟨rfl, rfl, rfl, rfl⟩⟩
    · refine ⟨_, rfl, hjudged fun last' hdetached => habove ?_⟩
      obtain rfl := Option.some.inj (hget.symm.trans hdetached.getLast)
      exact hdetached.above

end FileContext

/-! ## Runs -/

section Runs

variable {l : Linter} {files : List SourceFile} {c : FileContext}

/-- A package is a command if its files say so. -/
theorem isMain_of_mem_contexts (hsame : SamePackage files) (hc : c ∈ l.contexts files) :
    c.package.isMain = (c.packageName == "main") := by
  have hfile := Linter.file_mem_of_mem_contexts hc
  rw [PackageContext.isMain, (Linter.mem_contexts.mp hc).2.1, name_build]
  cases files with
  | nil => cases hfile
  | cons first fs => rw [FileContext.packageName, hsame c.file hfile first List.mem_cons_self]; rfl

/-- A package is documented if a file of it has a package comment, test files apart. -/
theorem documented_iff_of_mem_contexts (hc : c ∈ l.contexts files) :
    c.package.documented ↔ ∃ f ∈ files, f.isTest = false ∧ f.packageDoc ≠ none := by
  rw [(Linter.mem_contexts.mp hc).2.1, documented_build]
  simp [Option.isSome_iff_ne_none, and_comm]

end Runs

/-- A test file with a package comment. -/
def documentedTest : SourceFile :=
  { SourceFile.empty ⟨"a_test.go"⟩ "a" with
    package := ⟨"a", ⟨2, 9, 32⟩⟩
    packagePos := ⟨2, 1, 24⟩
    packageDoc := some ⟨Pos.start, 1, "Package a has tests.\n", ["// Package a has tests."]⟩
    leadingComments := [⟨Pos.start, 1, "Package a has tests.\n", ["// Package a has tests."]⟩]
    content := "// Package a has tests.\npackage a\n" }

/-- A file with a package comment that is detached. -/
def detachedFile : SourceFile :=
  { SourceFile.empty ⟨"b.go"⟩ "a" with
    package := ⟨"a", ⟨3, 9, 31⟩⟩
    packagePos := ⟨3, 1, 23⟩
    leadingComments := [⟨Pos.start, 1, "Package a is fine.\n", ["// Package a is fine."]⟩]
    content := "// Package a is fine.\n\npackage a\n" }

/-- A file without comments. -/
def plainFile : SourceFile :=
  { SourceFile.empty ⟨"c.go"⟩ "a" with content := "package a\n" }

/-- A package without a package comment that counts. -/
def uncommentedFiles : List SourceFile :=
  [documentedTest, detachedFile, plainFile]

end GoStyle
