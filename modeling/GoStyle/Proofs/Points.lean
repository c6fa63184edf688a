import Mathlib.Data.List.DropRight
import GoStyle.Go.Token
import GoStyle.Proofs.Cuts
import GoStyle.Source.File

/-!
# Points of a text

A point behind a part of a text is counted character by character. What comes of it is told by that
part alone (`Pos.behind`): the line by its line feeds, the column by the bytes behind the last of
them, the offset by all bytes (`pos_after`). The lines of a text are cut at the same places, so that
a name that stands behind a part of a text is found in the line and at the column of that point
(`exists_line_of_append`), whatever ends the lines have.
-/

namespace GoStyle

/-! ## Counting -/

/-- The beginning of the last line of a text, all that stands behind the last line feed. -/
def lastLine (s : List Char) : List Char :=
  s.rtakeWhile (· != '\n')

/-- The position behind a text. -/
def Pos.behind (s : List Char) : Pos where
  line := s.count '\n' + 1
  column := (String.ofList (lastLine s)).utf8ByteSize + 1
  offset := (String.ofList s).utf8ByteSize

theorem utf8ByteSize_ofList_append (s t : List Char) : (String.ofList (s ++ t)).utf8ByteSize =
    (String.ofList s).utf8ByteSize + (String.ofList t).utf8ByteSize := by
  rw [String.ofList_append, String.utf8ByteSize_append]

theorem utf8ByteSize_ofList_singleton (c : Char) :
    (String.ofList [c]).utf8ByteSize = c.utf8Size := by
  rw [utf8ByteSize_ofList_cons, String.ofList_nil, String.utf8ByteSize_empty, Nat.add_zero]

theorem lastLine_concat_feed (s : List Char) : lastLine (s ++ ['\n']) = [] :=
  List.rtakeWhile_concat_neg _ _ '\n' (by decide)

theorem lastLine_concat {c : Char} (h : c ≠ '\n') (s : List Char) :
    lastLine (s ++ [c]) = lastLine s ++ [c] :=
  List.rtakeWhile_concat_pos _ _ c (by simpa using h)

theorem after_append (p : Point) (s t : List Char) : p.after (s ++ t) = (p.after s).after t :=
  List.foldl_append

/-- The place behind a text, counted from its beginning. -/
theorem after_zero (s : List Char) : Point.zero.after s = ⟨s.count '\n',
    (String.ofList (lastLine s)).utf8ByteSize, (String.ofList s).utf8ByteSize⟩ := by
  induction s using List.reverseRecOn with
  | nil => rfl
  | append_singleton s c ih =>
    rw [after_append, ih, utf8ByteSize_ofList_append, utf8ByteSize_ofList_singleton]
    change Point.step _ c = _
    by_cases h : c = '\n'
    · subst h
      rw [lastLine_concat_feed, List.count_append]
      rfl
    · rw [Point.step, if_neg h, lastLine_concat h, utf8ByteSize_ofList_append,
        utf8ByteSize_ofList_singleton, List.count_append]
      simp [h]

/-- The position behind a text, counted from its beginning. -/
theorem pos_after (s : List Char) : (Point.zero.after s).pos = Pos.behind s := by
  rw [after_zero]
  rfl

/-! ## Lines -/

theorem joinLines_eq_intercalate : ∀ ls : List (List Char), joinLines ls = ['\n'].intercalate ls
  | [] => rfl
  | [l] => by simp [joinLines]
  | l :: m :: ls => by
    rw [joinLines, joinLines_eq_intercalate (m :: ls), List.intercalate_cons_cons,
      List.append_assoc, List.singleton_append]
    exact List.cons_ne_nil m ls

theorem commentText_intercalate (ls : List (List Char)) :
    commentText ("\n".intercalate (ls.map String.ofList)) =
      String.ofList (commentProse (joinLines ls)) := by
  rw [commentText, String.toList_intercalate, List.map_map, joinLines_eq_intercalate]
  simp

/-- Whether a text consists of whole lines, each with its end. -/
def IsWhole (s : List Char) : Prop :=
  ∀ c, s.getLast? = some c → c = '\n'

theorem IsWhole.of_cons {c : Char} {s : List Char} (h : IsWhole (c :: s)) : IsWhole s := by
  intro d hd
  refine h d ?_
  rw [List.getLast?_cons, hd, Option.getD_some]

theorem splitLines_cons {c : Char} {s : List Char} (hc : c ≠ '\n')
    (hend : ∀ t, c = '\r' → s ≠ '\n' :: t) : splitLines (c :: s) = consHead c (splitLines s) := by
  rw [splitLines]
  · exact hc
  · rintro t rfl rfl
    exact hend t rfl rfl

theorem consHead_append (c : Char) {ls : List (List Char)} (h : ls ≠ []) (ms : List (List Char)) :
    consHead c (ls ++ ms) = consHead c ls ++ ms := by
  cases ls with
  | nil => exact absurd rfl h
  | cons l ls => rfl

theorem splitLines_ne_nil : ∀ {s : List Char}, s ≠ [] → splitLines s ≠ [] := by
  intro s hs
  fun_cases splitLines s with
  | case1 => exact absurd rfl hs
  | case2 => simp
  | case3 => simp
  | case4 c s => cases splitLines s <;> simp [consHead]

theorem length_consHead (c : Char) {ls : List (List Char)} (h : ls ≠ []) :
    (consHead c ls).length = ls.length := by
  cases ls with
  | nil => exact absurd rfl h
  | cons l ls => rfl

/-- The lines behind whole lines of their own. -/
theorem splitLines_append {s : List Char} (h : IsWhole s) (t : List Char) :
    splitLines (s ++ t) = splitLines s ++ splitLines t ∧ (splitLines s).length = s.count '\n' := by
  fun_induction splitLines s with
  | case1 => exact ⟨rfl, rfl⟩
  | case2 s ih =>
    obtain ⟨happend, hlength⟩ := ih h.of_cons
    refine ⟨?_, ?_⟩
    · rw [List.cons_append, splitLines, happend, List.cons_append]
    · rw [List.length_cons, hlength, List.count_cons_self]
  | case3 s ih =>
    obtain ⟨happend, hlength⟩ := ih h.of_cons.of_cons
    refine ⟨?_, ?_⟩
    · rw [List.cons_append, List.cons_append, splitLines, happend, List.cons_append]
    · rw [List.length_cons, hlength]
      simp
  | case4 c s hfeed hend ih =>
    obtain ⟨happend, hlength⟩ := ih h.of_cons
    -- A character that ends no line has something behind it, for the last one ends a line.
    have hs : s ≠ [] := by
      rintro rfl
      exact hfeed (h c rfl)
    have hend' : ∀ u, c = '\r' → s ++ t ≠ '\n' :: u := by
      rintro u hc heq
      obtain ⟨d, s, rfl⟩ := List.exists_cons_of_ne_nil hs
      exact hend s hc (by rw [(List.cons_eq_cons.mp heq).1])
    refine ⟨?_, ?_⟩
    · rw [List.cons_append, splitLines_cons hfeed hend', happend,
        consHead_append c (splitLines_ne_nil hs)]
    · rw [length_consHead c (splitLines_ne_nil hs), hlength, List.count_cons_of_ne hfeed]

/-- A part of a line without its end is found at the beginning of the first line. -/
theorem exists_splitLines_append : ∀ {w : List Char} (t : List Char), w ≠ [] → '\n' ∉ w →
    w.getLast? ≠ some '\r' → ∃ right ls, splitLines (w ++ t) = (w ++ right) :: ls
  | [c], t, _, hfeed, hreturn => by
    have hc : c ≠ '\n' := fun h => hfeed (by simp [h])
    have hend : ∀ u, c = '\r' → t ≠ '\n' :: u := fun u h => absurd (by simp [h]) hreturn
    rw [List.singleton_append, splitLines_cons hc hend]
    cases splitLines t with
    | nil => exact ⟨[], [], rfl⟩
    | cons l ls => exact ⟨l, ls, rfl⟩
  | c :: d :: w, t, _, hfeed, hreturn => by
    have hc : c ≠ '\n' := fun h => hfeed (by simp [h])
    have hd : d ≠ '\n' := fun h => hfeed (by simp [h])
    have hend : ∀ u, c = '\r' → d :: w ++ t ≠ '\n' :: u :=
      fun u _ h => hd (List.cons_eq_cons.mp h).1
    obtain ⟨right, ls, hsplit⟩ := exists_splitLines_append t (List.cons_ne_nil d w)
      (fun h => hfeed (List.mem_cons_of_mem c h)) (by simpa using hreturn)
    exact ⟨right, ls, by rw [List.cons_append, splitLines_cons hc hend, hsplit]; rfl⟩

/-- The text in front of the last line of a text consists of whole lines. -/
theorem exists_isWhole_append (s : List Char) :
    ∃ whole, IsWhole whole ∧ s = whole ++ lastLine s := by
  refine ⟨s.rdropWhile (· != '\n'), fun c hc => ?_, List.rdropWhile_append_rtakeWhile.symm⟩
  obtain ⟨hne, rfl⟩ := List.mem_getLast?_eq_getLast hc
  simpa using List.rdropWhile_last_not (· != '\n') s hne

theorem not_mem_lastLine (s : List Char) : '\n' ∉ lastLine s := by
  intro h
  simpa using List.mem_rtakeWhile_imp h

/-- Whether a text is part of a line: it is not empty and holds no part of the end of a line. -/
structure IsPlain (s : List Char) : Prop where
  ne_nil : s ≠ []
  feed_not_mem : '\n' ∉ s
  return_not_mem : '\r' ∉ s

/-- A name that stands behind a part of a text is found in the line and at the column of the point
behind that part. -/
theorem exists_line_of_append (before after : List Char) {name : List Char} (h : IsPlain name) :
    ∃ right,
      (splitLines (before ++ name ++ after))[before.count '\n']? =
        some (lastLine before ++ name ++ right) := by
  obtain ⟨whole, hwhole, hbefore⟩ := exists_isWhole_append before
  have hcount : before.count '\n' = whole.count '\n' := by
    rw [hbefore, List.count_append, List.count_eq_zero_of_not_mem (not_mem_lastLine before),
      Nat.add_zero]
  obtain ⟨happend, hlength⟩ := splitLines_append hwhole (lastLine before ++ name ++ after)
  obtain ⟨right, ls, hsplit⟩ := exists_splitLines_append (w := lastLine before ++ name) after
    (by simp [h.ne_nil]) (by simp [h.feed_not_mem, not_mem_lastLine]) (by
      rw [List.getLast?_append_of_ne_nil _ h.ne_nil]
      exact fun hlast => h.return_not_mem (List.mem_of_getLast? hlast))
  refine ⟨right, ?_⟩
  have htext : before ++ name ++ after = whole ++ (lastLine before ++ name ++ after) := by
    rw [← List.append_assoc, ← List.append_assoc, ← hbefore]
  rw [htext, happend, hsplit, hcount, ← hlength]
  simp

end GoStyle
