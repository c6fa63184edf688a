import Mathlib.Algebra.GroupWithZero.Nat
import Mathlib.Algebra.Order.BigOperators.Group.List
import Mathlib.Algebra.Order.Group.Nat
import Mathlib.Data.List.ModifyLast
import GoStyle.Proofs.TidyLines

/-!
# Comments as they are written

The prose of comments, read off the comments one by one (`Comment.lines`): what stands behind `//`
and one space, unless that is an instruction to a tool, and the lines between `/*` and `*/`, all of
them without white space at their ends and with one empty line for several (`rendered`). Reading
them line by line gives the same (`Comment.bodies_source`), but for the last line of a comment that
goes over several: that one loses the white space in front as well (`Comment.keptLines`). So the
prose is that of the comments as they are written exactly if no last line is indented, for white
space in front of anything else is printed (`printed_trimStart_lt`).
-/

namespace GoStyle

/-! ## Comments -/

/-- A comment as it is written: what stands behind `//` on a line, or between `/*` and `*/`. -/
inductive Comment where
  | line (text : List Char) (h : '\n' ∉ text)
  | block (body : List Char) (h : ¬['*', '/'] <:+: body)

/-- Whether a line begins with white space and does not consist of it. -/
def IsIndented (l : List Char) : Prop :=
  (∃ c ∈ l.head?, isBlank c) ∧ ∃ c ∈ l, isBlank c = false

namespace Comment

/-- The comment with its markers. -/
def source : Comment → List Char
  | line text _ => '/' :: '/' :: text
  | block body _ => '/' :: '*' :: (body ++ ['*', '/'])

/-- The lines of a comment without its markers, and none of an instruction to a tool. -/
def lines : Comment → List (List Char)
  | line text _ =>
    if "go:".toList <+: text ∨ "line ".toList <+: text then []
    else [if text.head? = some ' ' then text.tail else text]
  | block body _ => body.splitOn '\n'

/-- The lines of a comment that are kept: of a last line behind others without the white space in
front. -/
def keptLines : Comment → List (List Char)
  | line text h => (line text h).lines
  | block body _ =>
    match body.splitOn '\n' with
    | [] => []
    | first :: rest => first :: rest.modifyLast trimStart

/-- Whether the comment goes over several lines and the last one is indented. -/
def IndentsEnd : Comment → Prop
  | line _ _ => False
  | block body _ => ∃ l ∈ (body.splitOn '\n').tail.getLast?, IsIndented l

end Comment

/-- Lines without white space at their ends, without empty lines at either end, with one empty line
for several, and with a line feed behind each. -/
def rendered (ls : List (List Char)) : String :=
  String.ofList (((((ls.map (List.rdropWhile isBlank)).dropWhile List.isEmpty).destutter
    Spaced).rdropWhile List.isEmpty).flatMap (· ++ ['\n']))

theorem rendered_eq (ls : List (List Char)) :
    rendered ls = String.ofList (closeLines (squeeze (ls.map trimEnd))) := by
  rw [squeeze_eq]
  rfl

/-! ## Ends of comments -/

/-- The text before the first end of a comment. -/
theorem beforeClose?_append {body : List Char} (h : ¬['*', '/'] <:+: body) (rest : List Char) :
    beforeClose? (body ++ '*' :: '/' :: rest) = some body := by
  induction body with
  | nil => rfl
  | cons c body ih =>
    rw [List.infix_cons_iff, not_or] at h
    have hopen : ∀ t, c = '*' → body ++ '*' :: '/' :: rest ≠ '/' :: t := by
      rintro t rfl heq
      cases body with
      | nil => cases heq
      | cons d body =>
        obtain ⟨rfl, -⟩ := List.cons_eq_cons.mp heq
        exact h.1 (by simp)
    rw [List.cons_append, beforeClose?, ih h.2]
    · rfl
    · exact fun t hc heq => hopen t hc heq

theorem beforeClose?_eq_none {s : List Char} (h : ¬['*', '/'] <:+: s) : beforeClose? s = none := by
  fun_induction beforeClose? s with
  | case1 => rfl
  | case2 s => exact absurd (List.prefix_append ['*', '/'] s).isInfix h
  | case3 c s _ ih =>
    rw [List.infix_cons_iff, not_or] at h
    rw [ih h.2, Option.map_none]

/-! ## Reading comments -/

/-- What may stand behind a comment: nothing, or a line feed and more lines. -/
inductive Behind : List Char → List (List Char) → Prop
  | nil : Behind [] []
  | feed (t) : Behind ('\n' :: t) (splitLines t)

section Reading

variable {rest : List Char} {ls : List (List Char)}

/-- A line, of which a carriage return at the end may be no part. -/
theorem exists_splitLines_behind (hrest : Behind rest ls) {l : List Char} (hfeed : '\n' ∉ l)
    (hne : l ≠ []) : ∃ m, splitLines (l ++ rest) = m :: ls ∧ (l = m ∨ l = m ++ ['\r']) := by
  cases hrest with
  | nil => exact ⟨l, by rw [List.append_nil, splitLines_last hfeed hne], Or.inl rfl⟩
  | feed t => exact exists_splitLines_feed hfeed t

/-- White space at the end of a line is nothing to its prose. -/
theorem trimEnd_of_return {l m : List Char} (h : l = m ∨ l = m ++ ['\r']) :
    trimEnd l = trimEnd m := by
  rcases h with rfl | rfl
  · rfl
  · exact List.rdropWhile_concat_pos isBlank m '\r' (by decide)

/-- A carriage return is not the first character of a line that begins with another one. -/
theorem exists_of_cons_return {c : Char} {l m : List Char} (hc : c ≠ '\r')
    (h : c :: l = m ∨ c :: l = m ++ ['\r']) :
    ∃ m', m = c :: m' ∧ (l = m' ∨ l = m' ++ ['\r']) := by
  rcases h with rfl | h
  · exact ⟨l, rfl, Or.inl rfl⟩
  · cases m with
    | nil => exact absurd (List.cons_eq_cons.mp h).1 hc
    | cons d m =>
      obtain ⟨rfl, rfl⟩ := List.cons_eq_cons.mp h
      exact ⟨m, rfl, Or.inr rfl⟩

/-! ### Comments on a line -/

theorem isDirective_iff (text : List Char) :
    isDirective text ↔ "go:".toList <+: text ∨ "line ".toList <+: text := by
  simp [isDirective]

theorem withoutSpace_eq (text : List Char) :
    withoutSpace text = if text.head? = some ' ' then text.tail else text := by
  fun_cases withoutSpace text with
  | case1 s => rfl
  | case2 s hne =>
    rw [if_neg]
    intro hhead
    obtain ⟨s, rfl⟩ := List.head?_eq_some_iff.mp hhead
    exact hne s rfl

theorem lines_line {text : List Char} (h : '\n' ∉ text) :
    (Comment.line text h).lines = if isDirective text then [] else [withoutSpace text] := by
  simp only [isDirective_iff, withoutSpace_eq]
  rfl

theorem bodies_slashes {text : List Char} (h : '\n' ∉ text) (ls : List (List Char)) :
    bodies false (('/' :: '/' :: text) :: ls) = (Comment.line text h).lines ++ bodies false ls := by
  have hopen : bodies false (('/' :: '/' :: text) :: ls) =
      if isDirective text then bodies false ls else withoutSpace text :: bodies false ls := rfl
  rw [hopen, lines_line]
  split_ifs <;> rfl

theorem prefix_concat_return {p text : List Char} (h : p.getLast? ≠ some '\r') :
    p <+: text ++ ['\r'] ↔ p <+: text := by
  rw [List.prefix_concat_iff, or_iff_right]
  rintro rfl
  exact h List.getLast?_concat

theorem isDirective_concat_return (text : List Char) :
    isDirective (text ++ ['\r']) = isDirective text := by
  rw [Bool.eq_iff_iff, isDirective_iff, isDirective_iff, prefix_concat_return (by decide),
    prefix_concat_return (by decide)]

theorem withoutSpace_concat_return (text : List Char) :
    withoutSpace (text ++ ['\r']) = withoutSpace text ++ ['\r'] := by
  cases text with
  | nil => rfl
  | cons c text =>
    rw [withoutSpace_eq, withoutSpace_eq, List.cons_append, List.head?_cons, List.head?_cons]
    split_ifs <;> rfl

/-- The prose of a comment on a line. -/
theorem bodies_line {text : List Char} (h : '\n' ∉ text) (hrest : Behind rest ls) :
    (bodies false (splitLines ('/' :: '/' :: text ++ rest))).map trimEnd =
      (Comment.line text h).lines.map trimEnd ++ (bodies false ls).map trimEnd := by
  obtain ⟨m, hm, hlm⟩ := exists_splitLines_behind hrest (l := '/' :: '/' :: text) (by simp [h])
    (List.cons_ne_nil _ _)
  obtain ⟨m, rfl, hm'⟩ := exists_of_cons_return (by decide) hlm
  obtain ⟨text', rfl, htext⟩ := exists_of_cons_return (by decide) hm'
  rcases htext with rfl | rfl
  · rw [hm, bodies_slashes h, List.map_append]
  · have h' : '\n' ∉ text' := fun hmem => h (List.mem_append_left _ hmem)
    have hlines : (Comment.line (text' ++ ['\r']) h).lines.map trimEnd =
        (Comment.line text' h').lines.map trimEnd := by
      rw [lines_line, lines_line, isDirective_concat_return, withoutSpace_concat_return]
      split_ifs
      · rfl
      · rw [List.map_singleton, List.map_singleton, trimEnd_of_return (Or.inr rfl)]
    rw [hm, bodies_slashes h', List.map_append, hlines]

/-! ### Comments between markers -/

/-- A line that ends with a comment. -/
theorem splitLines_close (hrest : Behind rest ls) {l : List Char} (hfeed : '\n' ∉ l) :
    splitLines (l ++ '*' :: '/' :: rest) = (l ++ ['*', '/']) :: ls := by
  obtain ⟨m, hm, hlm⟩ := exists_splitLines_behind hrest (l := l ++ ['*', '/']) (by simp [hfeed])
    (by simp)
  -- A line that ends in a slash does not end in a carriage return.
  have hend : l ++ ['*', '/'] = m := by
    refine hlm.resolve_right fun h => ?_
    have hlast := congrArg List.getLast? h
    simp at hlast
  rw [List.append_assoc] at hm
  rw [hend]
  exact hm

theorem trimStart_close (l : List Char) :
    trimStart (l ++ ['*', '/']) = trimStart l ++ ['*', '/'] := by
  rw [trimStart, trimStart, List.dropWhile_append]
  split_ifs with hempty
  · rw [List.isEmpty_iff.mp hempty]
    rfl
  · rfl

theorem isInfix_of_return {l m : List Char} (h : l = m ∨ l = m ++ ['\r']) : m <:+: l := by
  rcases h with rfl | rfl
  · exact List.infix_rfl
  · exact List.prefix_append m ['\r'] |>.isInfix

/-- A comment that goes over several lines does not end in the first one or behind it. -/
theorem not_close_of_feed {l body : List Char} (h : ¬['*', '/'] <:+: l ++ '\n' :: body) :
    ¬['*', '/'] <:+: l ∧ ¬['*', '/'] <:+: body :=
  ⟨fun hl => h (hl.trans (List.prefix_append l _).isInfix), fun hbody =>
    h (hbody.trans ((List.suffix_cons '\n' body).trans (List.suffix_append l _)).isInfix)⟩

/-- The prose of what is left of a comment that goes over several lines. -/
theorem bodies_inside (hrest : Behind rest ls) {body : List Char} (h : ¬['*', '/'] <:+: body) :
    (bodies true (splitLines (body ++ '*' :: '/' :: rest))).map trimEnd =
      ((body.splitOn '\n').modifyLast trimStart).map trimEnd ++ (bodies false ls).map trimEnd := by
  by_cases hfeed : '\n' ∈ body
  · obtain ⟨l, body, rfl, hl⟩ := List.eq_append_cons_of_mem hfeed
    obtain ⟨m, hm, hlm⟩ := exists_splitLines_feed hl (body ++ '*' :: '/' :: rest)
    obtain ⟨hfirst, hbody⟩ := not_close_of_feed h
    have hclose : ¬['*', '/'] <:+: trimStart m := fun hm =>
      hfirst (hm.trans ((List.dropWhile_suffix isBlank).isInfix.trans (isInfix_of_return hlm)))
    have hlast : (l :: body.splitOn '\n').modifyLast trimStart =
        l :: (body.splitOn '\n').modifyLast trimStart :=
      List.modifyLast_append_of_right_ne_nil trimStart [l] _ (List.splitOn_ne_nil '\n' body)
    rw [List.append_assoc, List.cons_append, hm, bodies, beforeClose?_eq_none hclose,
      List.splitOn_append_cons_self_of_not_mem hl, hlast, List.map_cons, List.map_cons,
      trimEnd_of_return hlm, bodies_inside hrest hbody, List.cons_append]
  · have hclose : ¬['*', '/'] <:+: trimStart body := fun hbody =>
      h (hbody.trans (List.dropWhile_suffix isBlank).isInfix)
    rw [splitLines_close hrest hfeed, bodies, trimStart_close, beforeClose?_append hclose,
      List.splitOn_eq_singleton hfeed]
    rfl
termination_by body.length

theorem bodies_closed {l body : List Char} (h : beforeClose? l = some body)
    (ls : List (List Char)) :
    bodies false (('/' :: '*' :: l) :: ls) = body :: bodies false ls := by
  have hstart : trimStart ('/' :: '*' :: l) = '/' :: '*' :: l := rfl
  simp only [bodies, hstart, h]

theorem bodies_opened {l : List Char} (h : beforeClose? l = none) (ls : List (List Char)) :
    bodies false (('/' :: '*' :: l) :: ls) = l :: bodies true ls := by
  have hstart : trimStart ('/' :: '*' :: l) = '/' :: '*' :: l := rfl
  simp only [bodies, hstart, h]

/-- The prose of a comment between markers. -/
theorem bodies_block {body : List Char} (h : ¬['*', '/'] <:+: body) (hrest : Behind rest ls) :
    (bodies false (splitLines ('/' :: '*' :: body ++ '*' :: '/' :: rest))).map trimEnd =
      (Comment.block body h).keptLines.map trimEnd ++ (bodies false ls).map trimEnd := by
  by_cases hfeed : '\n' ∈ body
  · obtain ⟨l, body, rfl, hl⟩ := List.eq_append_cons_of_mem hfeed
    obtain ⟨m, hm, hlm⟩ := exists_splitLines_feed (l := '/' :: '*' :: l) (by simp [hl])
      (body ++ '*' :: '/' :: rest)
    obtain ⟨m, rfl, hm'⟩ := exists_of_cons_return (by decide) hlm
    obtain ⟨m, rfl, hl'⟩ := exists_of_cons_return (by decide) hm'
    obtain ⟨hfirst, hbody⟩ := not_close_of_feed h
    have hclose : ¬['*', '/'] <:+: m := fun hm => hfirst (hm.trans (isInfix_of_return hl'))
    simp only [List.cons_append, List.append_assoc] at hm ⊢
    rw [hm, bodies_opened (beforeClose?_eq_none hclose), Comment.keptLines,
      List.splitOn_append_cons_self_of_not_mem hl, List.map_cons, List.map_cons,
      trimEnd_of_return hl', bodies_inside hrest hbody, List.cons_append]
  · rw [splitLines_close hrest (by simp [hfeed]), List.cons_append, List.cons_append,
      bodies_closed (beforeClose?_append h []), Comment.keptLines, List.splitOn_eq_singleton hfeed]
    rfl

/-- The prose of a comment in front of other lines. -/
theorem Comment.bodies_source (c : Comment) (hrest : Behind rest ls) :
    (bodies false (splitLines (c.source ++ rest))).map trimEnd =
      c.keptLines.map trimEnd ++ (bodies false ls).map trimEnd := by
  cases c with
  | line text h => exact bodies_line h hrest
  | block body h =>
    have hblock := bodies_block h hrest
    simpa [Comment.source] using hblock

end Reading

/-- The prose of comments. -/
theorem bodies_comments : ∀ cs : List Comment,
    (bodies false (splitLines (joinLines (cs.map Comment.source)))).map trimEnd =
      (cs.flatMap Comment.keptLines).map trimEnd
  | [] => rfl
  | [c] => by
    have hread := c.bodies_source Behind.nil
    simpa [bodies, joinLines] using hread
  | c :: d :: cs => by
    have hread := c.bodies_source (Behind.feed (joinLines ((d :: cs).map Comment.source)))
    rw [bodies_comments (d :: cs)] at hread
    rw [List.flatMap_cons, List.map_append]
    exact hread

/-! ## Indented last lines -/

section Indentation

variable {l : List Char}

/-- White space in front stays when the one at the end is taken away, if anything else stands there.
-/
theorem trimEnd_eq_append (h : ∃ c ∈ l, isBlank c = false) :
    trimEnd l = l.takeWhile isBlank ++ trimEnd (trimStart l) := by
  obtain ⟨c, hc, hblank⟩ := h
  have hmem : c ∈ l.dropWhile isBlank := by
    rw [← l.takeWhile_append_dropWhile (p := isBlank), List.mem_append] at hc
    refine hc.resolve_left fun htake => ?_
    rw [List.mem_takeWhile_imp htake] at hblank
    cases hblank
  have hne : ¬((l.dropWhile isBlank).reverse.dropWhile isBlank).isEmpty := by
    rw [List.isEmpty_iff, List.dropWhile_eq_nil_iff]
    intro hall
    rw [hall c (List.mem_reverse.mpr hmem)] at hblank
    cases hblank
  conv_lhs =>
    rw [← l.takeWhile_append_dropWhile (p := isBlank), trimEnd, List.reverse_append,
      List.dropWhile_append, if_neg hne, List.reverse_append, List.reverse_reverse]
  rfl

theorem trimEnd_trimStart (h : ¬IsIndented l) : trimEnd (trimStart l) = trimEnd l := by
  by_cases hsome : ∃ c ∈ l, isBlank c = false
  · cases l with
    | nil => rfl
    | cons c l =>
      have hc : ¬isBlank c := fun hblank => h ⟨⟨c, rfl, hblank⟩, hsome⟩
      rw [trimEnd_eq_append hsome, List.takeWhile_cons_of_neg hc, List.nil_append]
  · have hall : ∀ c ∈ l, isBlank c := by simpa using hsome
    have hstart : trimStart l = [] := List.dropWhile_eq_nil_iff.mpr hall
    have hend : trimEnd l = [] := List.rdropWhile_eq_nil_iff.mpr hall
    rw [hstart, hend]
    rfl

/-- How many characters but line feeds lines have without the white space at their ends. -/
def printed (ls : List (List Char)) : Nat :=
  (ls.flatMap trimEnd).countP (· != '\n')

theorem printed_append (ls ms : List (List Char)) :
    printed (ls ++ ms) = printed ls + printed ms := by
  rw [printed, List.flatMap_append, List.countP_append]
  rfl

theorem printed_flatMap {α : Type*} (f : α → List (List Char)) (xs : List α) :
    printed (xs.flatMap f) = (xs.map fun x => printed (f x)).sum := by
  rw [printed, List.flatMap_assoc, List.countP_flatMap]
  rfl

/-- White space in front is printed. -/
theorem printed_trimStart_lt (h : IsIndented l) (hfeed : '\n' ∉ l) :
    printed [trimStart l] < printed [l] := by
  obtain ⟨⟨c, hhead, hblank⟩, hsome⟩ := h
  obtain ⟨l, rfl⟩ := List.head?_eq_some_iff.mp hhead
  have hc : (c != '\n') = true := by
    rw [bne_iff_ne]
    rintro rfl
    exact hfeed List.mem_cons_self
  simp only [printed, List.flatMap_singleton]
  rw [trimEnd_eq_append hsome, List.takeWhile_cons_of_pos hblank, List.countP_append]
  have hpos : 0 < (c :: l.takeWhile isBlank).countP (· != '\n') :=
    List.countP_pos_iff.mpr ⟨c, List.mem_cons_self, hc⟩
  omega

theorem feed_not_mem_of_mem_splitOn (s : List Char) : ∀ l ∈ s.splitOn '\n', '\n' ∉ l := by
  induction s with
  | nil => simp
  | cons c s ih =>
    rw [List.splitOn_cons_eq_if_modifyHead]
    split_ifs with hc
    · exact List.forall_mem_cons.mpr ⟨List.not_mem_nil, ih⟩
    · obtain ⟨l, ls, hsplit⟩ := List.exists_cons_of_ne_nil (List.splitOn_ne_nil '\n' s)
      rw [hsplit] at ih ⊢
      obtain ⟨hl, hls⟩ := List.forall_mem_cons.mp ih
      rw [beq_iff_eq] at hc
      exact List.forall_mem_cons.mpr ⟨by simp [Ne.symm hc, hl], hls⟩

theorem countP_closeLines (ls : List (List Char)) :
    (closeLines ls).countP (· != '\n') = ls.flatten.countP (· != '\n') := by
  induction ls with
  | nil => rfl
  | cons l ls ih =>
    rw [closeLines] at ih
    rw [closeLines, List.flatMap_cons, List.countP_append, List.countP_append, ih,
      List.flatten_cons, List.countP_append]
    rfl

theorem countP_rendered (ls : List (List Char)) :
    (rendered ls).toList.countP (· != '\n') = printed ls := by
  rw [rendered_eq, String.toList_ofList, countP_closeLines, flatten_squeeze]
  rfl

end Indentation

namespace Comment

variable {c : Comment}

theorem map_trimEnd_keptLines (h : ¬c.IndentsEnd) :
    c.keptLines.map trimEnd = c.lines.map trimEnd := by
  cases c with
  | line text hfeed => rfl
  | block body hclose =>
    obtain ⟨first, rest, hsplit⟩ := List.exists_cons_of_ne_nil (List.splitOn_ne_nil '\n' body)
    rw [IndentsEnd, hsplit] at h
    rw [keptLines, lines, hsplit]
    obtain rfl | ⟨init, l, rfl⟩ := rest.eq_nil_or_concat'
    · rfl
    · have hl : ¬IsIndented l := fun hindented => h ⟨l, by simp, hindented⟩
      simp only [List.modifyLast_concat, List.map_cons, List.map_append, List.map_nil,
        trimEnd_trimStart hl]

theorem printed_keptLines_lt (h : c.IndentsEnd) : printed c.keptLines < printed c.lines := by
  cases c with
  | line text hfeed => exact h.elim
  | block body hclose =>
    obtain ⟨first, rest, hsplit⟩ := List.exists_cons_of_ne_nil (List.splitOn_ne_nil '\n' body)
    obtain ⟨l, hl, hindented⟩ := h
    rw [hsplit, List.tail_cons] at hl
    obtain ⟨init, rfl⟩ := List.getLast?_eq_some_iff.mp hl
    have hfeed : '\n' ∉ l := feed_not_mem_of_mem_splitOn body l (by simp [hsplit])
    have hlt := printed_trimStart_lt hindented hfeed
    rw [keptLines, lines, hsplit]
    simp only [List.modifyLast_concat]
    rw [← List.cons_append, ← List.cons_append, printed_append, printed_append]
    omega

end Comment

/-- The prose of comments is that of their lines without the white space in front of the last line
of a comment that goes over several, so it is the prose of the comments as they are written exactly
if none of these lines is indented. -/
theorem commentText_comments (cs : List Comment) :
    commentText ("\n".intercalate (cs.map fun c => String.ofList c.source)) =
        rendered (cs.flatMap Comment.keptLines) ∧
      (commentText ("\n".intercalate (cs.map fun c => String.ofList c.source)) =
        rendered (cs.flatMap Comment.lines) ↔ ∀ c ∈ cs, ¬c.IndentsEnd) := by
  have hkept : commentText ("\n".intercalate (cs.map fun c => String.ofList c.source)) =
      rendered (cs.flatMap Comment.keptLines) := by
    have htext := commentText_intercalate (cs.map Comment.source)
    rw [List.map_map, commentProse, bodies_comments] at htext
    rw [rendered_eq]
    exact htext
  refine ⟨hkept, ?_⟩
  rw [hkept]
  constructor
  · intro heq c hc hindents
    -- No comment has more to print for it, and this one has less.
    have hle : ∀ c ∈ cs, printed c.keptLines ≤ printed c.lines := by
      intro c _
      by_cases h : c.IndentsEnd
      · exact (Comment.printed_keptLines_lt h).le
      · rw [printed, printed, List.flatMap_def, List.flatMap_def, Comment.map_trimEnd_keptLines h]
    have hlt := List.sum_lt_sum (fun c : Comment => printed c.keptLines) (fun c => printed c.lines)
      hle ⟨c, hc, Comment.printed_keptLines_lt hindents⟩
    rw [← printed_flatMap, ← printed_flatMap, ← countP_rendered, ← countP_rendered, heq] at hlt
    exact lt_irrefl _ hlt
  · intro h
    have hmap : (cs.flatMap Comment.keptLines).map trimEnd =
        (cs.flatMap Comment.lines).map trimEnd := by
      rw [List.map_flatMap, List.map_flatMap]
      exact List.flatMap_congr fun c hc => Comment.map_trimEnd_keptLines (h c hc)
    rw [rendered_eq, rendered_eq, hmap]

/-- A comment with white space in front of its last line. -/
def indentedBlock : Comment :=
  .block " a\n  b ".toList (by simp [List.infix_cons_iff])

/-- The prose of it has no white space there. -/
theorem commentText_indentedBlock : indentedBlock.source = "/* a\n  b */".toList ∧
    commentText ("\n".intercalate ([indentedBlock].map fun c => String.ofList c.source)) =
      " a\nb\n" ∧
    rendered ([indentedBlock].flatMap Comment.lines) = " a\n  b\n" := by
  decide

end GoStyle
