import Mathlib.Data.List.Destutter
import Mathlib.Data.Set.Basic
import GoStyle.Proofs.Points

/-!
# Tidy lines

The prose of comments is `Tidy`: no line has white space at its end, the first and the last line are
not empty, and no two empty lines stand side by side. That holds of the comments in any text,
whether or not they are closed (`tidy_prose`), since `squeeze` drops the empty lines at both ends
and all but one of adjacent ones (`squeeze_eq`). Tidy lines are left alone by it
(`Tidy.squeeze_eq`), and a line with `//` and a space in front is a comment whose body is the line,
whatever the line looks like (`bodies_lineComments`). So the texts that are prose are those with
tidy lines.
-/

namespace GoStyle

/-! ## Empty lines -/

/-- Whether one of two adjacent lines is not empty. -/
def Spaced (l m : List Char) : Prop :=
  l ≠ [] ∨ m ≠ []

instance : DecidableRel Spaced :=
  fun l m => inferInstanceAs (Decidable (l ≠ [] ∨ m ≠ []))

/-- Lines without white space at their ends, with no empty line at either end and no two empty lines
side by side. -/
structure Tidy (ls : List (List Char)) : Prop where
  feed_not_mem : ∀ l ∈ ls, '\n' ∉ l
  trimmed : ∀ l ∈ ls, ∀ c ∈ l.getLast?, isBlank c = false
  first : ∀ l ∈ ls.head?, l ≠ []
  last : ∀ l ∈ ls.getLast?, l ≠ []
  spaced : ls.IsChain Spaced

/-- What `squeezeFrom` keeps behind a line. -/
theorem destutter'_spaced (prev : List Char) (ls : List (List Char)) :
    ls.destutter' Spaced prev = prev :: squeezeFrom prev.isEmpty ls := by
  induction ls generalizing prev with
  | nil => rfl
  | cons l ls ih =>
    cases l with
    | nil =>
      cases prev with
      | nil => rw [List.destutter'_cons_neg _ (by simp [Spaced]), ih]; rfl
      | cons c prev => rw [List.destutter'_cons_pos _ (by simp [Spaced]), ih]; rfl
    | cons c l => rw [List.destutter'_cons_pos _ (by simp [Spaced]), ih]; cases prev <;> rfl

/-- At the beginning empty lines are dropped. -/
theorem squeezeFrom_true (ls : List (List Char)) :
    squeezeFrom true ls = (ls.dropWhile List.isEmpty).destutter Spaced := by
  induction ls with
  | nil => rfl
  | cons l ls ih =>
    cases l with
    | nil => exact ih
    | cons c l => exact (destutter'_spaced (c :: l) ls).symm

/-- Empty lines at either end are dropped, and of adjacent ones all but one. -/
theorem squeeze_eq (ls : List (List Char)) : squeeze ls =
    ((ls.dropWhile List.isEmpty).destutter Spaced).rdropWhile List.isEmpty := by
  rw [squeeze, squeezeFrom_true]
  rfl

theorem squeeze_prefix_squeezeFrom (ls : List (List Char)) : squeeze ls <+: squeezeFrom true ls :=
  List.rdropWhile_prefix List.isEmpty _

theorem squeeze_sublist (ls : List (List Char)) : (squeeze ls).Sublist ls := by
  have hsub := ls.destutter'_sublist Spaced []
  rw [destutter'_spaced] at hsub
  exact (squeeze_prefix_squeezeFrom ls).sublist.trans (List.cons_sublist_cons.mp hsub)

theorem flatten_squeezeFrom (gap : Bool) (ls : List (List Char)) :
    (squeezeFrom gap ls).flatten = ls.flatten := by
  fun_induction squeezeFrom gap ls <;> simp_all

/-- Nothing but empty lines is dropped. -/
theorem flatten_squeeze (ls : List (List Char)) : (squeeze ls).flatten = ls.flatten := by
  have hempty : ((squeezeFrom true ls).rtakeWhile List.isEmpty).flatten = [] :=
    List.flatten_eq_nil_iff.mpr fun l hl => List.isEmpty_iff.mp (List.mem_rtakeWhile_imp hl)
  have hsplit : squeeze ls ++ (squeezeFrom true ls).rtakeWhile List.isEmpty = squeezeFrom true ls :=
    List.rdropWhile_append_rtakeWhile
  rw [← flatten_squeezeFrom true ls, ← hsplit, List.flatten_append, hempty, List.append_nil]

/-- Lines without white space at their ends are tidy when empty ones are dropped. -/
theorem tidy_squeeze {ls : List (List Char)} (hfeed : ∀ l ∈ ls, '\n' ∉ l)
    (htrimmed : ∀ l ∈ ls, ∀ c ∈ l.getLast?, isBlank c = false) : Tidy (squeeze ls) := by
  -- Behind an empty line no other one is kept.
  have hchain : ([] :: squeeze ls).IsChain Spaced := by
    have hall := List.isChain_destutter' Spaced ls []
    rw [destutter'_spaced] at hall
    exact hall.prefix (List.cons_prefix_cons.mpr ⟨rfl, squeeze_prefix_squeezeFrom ls⟩)
  obtain ⟨hfirst, hspaced⟩ := List.isChain_cons.mp hchain
  refine ⟨fun l hl => hfeed l ((squeeze_sublist ls).subset hl),
    fun l hl => htrimmed l ((squeeze_sublist ls).subset hl),
    fun l hl => (hfirst l hl).resolve_left (fun h => h rfl), fun l hl => ?_, hspaced⟩
  obtain ⟨hne, rfl⟩ := List.mem_getLast?_eq_getLast hl
  have hlast := List.rdropWhile_last_not List.isEmpty (squeezeFrom true ls) hne
  rwa [List.isEmpty_iff] at hlast

/-- Nothing is dropped from tidy lines. -/
theorem Tidy.squeeze_eq {ls : List (List Char)} (h : Tidy ls) : squeeze ls = ls := by
  have hchain : ([] :: ls).IsChain Spaced :=
    List.isChain_cons.mpr ⟨fun l hl => Or.inr (h.first l hl), h.spaced⟩
  have hkept : squeezeFrom true ls = ls := by
    have hall := ls.destutter'_of_isChain_cons Spaced hchain
    rw [destutter'_spaced] at hall
    exact (List.cons_eq_cons.mp hall).2
  rw [squeeze, hkept]
  refine List.rdropWhile_eq_self_iff.mpr fun hne => ?_
  simpa using h.last _ (List.getLast?_eq_some_getLast hne)

/-! ## Lines of a text -/

theorem isBlank_getLast?_trimEnd (s : List Char) :
    ∀ c ∈ (trimEnd s).getLast?, isBlank c = false := by
  intro c hc
  obtain ⟨hne, rfl⟩ := List.mem_getLast?_eq_getLast hc
  rw [← Bool.not_eq_true]
  exact List.rdropWhile_last_not isBlank s hne

theorem trimEnd_eq_self {s : List Char} (h : ∀ c ∈ s.getLast?, isBlank c = false) :
    trimEnd s = s := by
  refine List.rdropWhile_eq_self_iff.mpr fun hne => ?_
  simpa using h _ (List.getLast?_eq_some_getLast hne)

theorem feed_not_mem_of_mem_splitLines (s : List Char) : ∀ l ∈ splitLines s, '\n' ∉ l := by
  fun_induction splitLines s with
  | case1 => simp
  | case2 s ih => exact List.forall_mem_cons.mpr ⟨List.not_mem_nil, ih⟩
  | case3 s ih => exact List.forall_mem_cons.mpr ⟨List.not_mem_nil, ih⟩
  | case4 c s hfeed _ ih =>
    cases hs : splitLines s with
    | nil => simpa [consHead] using Ne.symm hfeed
    | cons l ls =>
      rw [hs] at ih
      obtain ⟨hl, hls⟩ := List.forall_mem_cons.mp ih
      exact List.forall_mem_cons.mpr ⟨by simp [Ne.symm hfeed, hl], hls⟩

/-- A line that ends in a line feed. A carriage return in front of the line feed is no part of it.
-/
theorem exists_splitLines_feed {l : List Char} (h : '\n' ∉ l) (t : List Char) :
    ∃ m, splitLines (l ++ '\n' :: t) = m :: splitLines t ∧ (l = m ∨ l = m ++ ['\r']) := by
  induction l with
  | nil => exact ⟨[], by rw [List.nil_append, splitLines], Or.inl rfl⟩
  | cons c l ih =>
    rw [List.mem_cons, not_or] at h
    by_cases hend : c = '\r' ∧ l = []
    · obtain ⟨rfl, rfl⟩ := hend
      exact ⟨[], by rw [List.singleton_append, splitLines], Or.inr rfl⟩
    · obtain ⟨m, hm, hlm⟩ := ih h.2
      have hnofeed : ∀ u, c = '\r' → l ++ '\n' :: t ≠ '\n' :: u := by
        intro u hc heq
        cases l with
        | nil => exact hend ⟨hc, rfl⟩
        | cons d l => exact h.2 ((List.cons_eq_cons.mp heq).1 ▸ List.mem_cons_self)
      refine ⟨c :: m, ?_, hlm.imp (congrArg (c :: ·)) (congrArg (c :: ·))⟩
      rw [List.cons_append, splitLines_cons (Ne.symm h.1) hnofeed, hm]
      rfl

/-- A line at the end of a text. -/
theorem splitLines_last {l : List Char} (h : '\n' ∉ l) (hne : l ≠ []) : splitLines l = [l] := by
  induction l with
  | nil => exact absurd rfl hne
  | cons c l ih =>
    rw [List.mem_cons, not_or] at h
    have hnofeed : ∀ u, c = '\r' → l ≠ '\n' :: u :=
      fun u _ heq => h.2 (heq ▸ List.mem_cons_self)
    rw [splitLines_cons (Ne.symm h.1) hnofeed]
    cases l with
    | nil => rfl
    | cons d l => rw [ih h.2 (List.cons_ne_nil d l)]; rfl

/-- Lines that are put together are found again, if none of them ends in a carriage return and the
last one is not empty. -/
theorem splitLines_joinLines : ∀ {ls : List (List Char)}, (∀ l ∈ ls, '\n' ∉ l) →
    (∀ l ∈ ls, l.getLast? ≠ some '\r') → (∀ l ∈ ls.getLast?, l ≠ []) →
    splitLines (joinLines ls) = ls
  | [], _, _, _ => rfl
  | [l], hfeed, _, hlast => splitLines_last (hfeed l List.mem_cons_self) (hlast l rfl)
  | l :: l' :: ls, hfeed, hreturn, hlast => by
    obtain ⟨hl, hls⟩ := List.forall_mem_cons.mp hfeed
    obtain ⟨hlreturn, hlsreturn⟩ := List.forall_mem_cons.mp hreturn
    rw [List.getLast?_cons_cons] at hlast
    obtain ⟨m, hm, rfl | rfl⟩ := exists_splitLines_feed hl (joinLines (l' :: ls))
    · rw [joinLines, hm, splitLines_joinLines hls hlsreturn hlast]
      simp
    · simp at hlreturn

/-! ## Bodies of comments -/

theorem prefix_of_beforeClose? {s body : List Char} (h : beforeClose? s = some body) :
    body <+: s := by
  fun_induction beforeClose? s generalizing body with
  | case1 => cases h
  | case2 s =>
    obtain rfl := Option.some.inj h
    exact List.nil_prefix
  | case3 c s _ ih =>
    obtain ⟨body, hbody, rfl⟩ := Option.map_eq_some_iff.mp h
    exact List.cons_prefix_cons.mpr ⟨rfl, ih hbody⟩

theorem mem_of_mem_trimStart {c : Char} {l s : List Char} (h : trimStart l = s) (hc : c ∈ s) :
    c ∈ l := by
  subst h
  exact (List.dropWhile_suffix isBlank).subset hc

theorem withoutSpace_suffix (s : List Char) : withoutSpace s <:+ s := by
  fun_cases withoutSpace s with
  | case1 s => exact List.suffix_cons ' ' s
  | case2 => exact List.suffix_rfl

/-- The bodies of comments are parts of lines. -/
theorem feed_not_mem_of_mem_bodies {inside : Bool} {ls : List (List Char)}
    (h : ∀ l ∈ ls, '\n' ∉ l) : ∀ body ∈ bodies inside ls, '\n' ∉ body := by
  fun_induction bodies inside ls with
  | case1 => simp
  | case2 l ls body hclose ih =>
    obtain ⟨hl, hls⟩ := List.forall_mem_cons.mp h
    refine List.forall_mem_cons.mpr ⟨fun hfeed => hl ?_, ih hls⟩
    exact mem_of_mem_trimStart rfl ((prefix_of_beforeClose? hclose).subset hfeed)
  | case3 l ls _ ih =>
    obtain ⟨hl, hls⟩ := List.forall_mem_cons.mp h
    exact List.forall_mem_cons.mpr ⟨hl, ih hls⟩
  | case4 l ls rest _ _ ih => exact ih (List.forall_mem_cons.mp h).2
  | case5 l ls rest hline _ ih =>
    obtain ⟨hl, hls⟩ := List.forall_mem_cons.mp h
    refine List.forall_mem_cons.mpr ⟨fun hfeed => hl (mem_of_mem_trimStart hline ?_), ih hls⟩
    exact List.mem_cons_of_mem _ (List.mem_cons_of_mem _ ((withoutSpace_suffix rest).subset hfeed))
  | case6 l ls rest hblock body hclose ih =>
    obtain ⟨hl, hls⟩ := List.forall_mem_cons.mp h
    refine List.forall_mem_cons.mpr ⟨fun hfeed => hl (mem_of_mem_trimStart hblock ?_), ih hls⟩
    exact List.mem_cons_of_mem _ (List.mem_cons_of_mem _
      ((prefix_of_beforeClose? hclose).subset hfeed))
  | case7 l ls rest hblock _ ih =>
    obtain ⟨hl, hls⟩ := List.forall_mem_cons.mp h
    refine List.forall_mem_cons.mpr ⟨fun hfeed => hl (mem_of_mem_trimStart hblock ?_), ih hls⟩
    exact List.mem_cons_of_mem _ (List.mem_cons_of_mem _ hfeed)
  | case8 l ls _ _ ih => exact ih (List.forall_mem_cons.mp h).2

/-- The lines of the prose of any text. -/
theorem tidy_prose (raw : List Char) :
    Tidy (squeeze ((bodies false (splitLines raw)).map trimEnd)) := by
  refine tidy_squeeze (List.forall_mem_map.mpr fun body hbody hfeed => ?_)
    (List.forall_mem_map.mpr fun body _ => isBlank_getLast?_trimEnd body)
  exact feed_not_mem_of_mem_bodies (feed_not_mem_of_mem_splitLines raw) body hbody
    ((List.rdropWhile_prefix isBlank body).subset hfeed)

/-! ## Comments for given lines -/

/-- A line as a comment. -/
def lineComment (l : List Char) : List Char :=
  '/' :: '/' :: ' ' :: l

/-- The body of a line as a comment is the line. -/
theorem bodies_lineComments (ls : List (List Char)) : bodies false (ls.map lineComment) = ls := by
  induction ls with
  | nil => rfl
  | cons l ls ih => exact congrArg (l :: ·) ih

/-- The prose of tidy lines, each as a comment, is the lines. -/
theorem Tidy.commentText_eq {ls : List (List Char)} (h : Tidy ls) :
    commentText ("\n".intercalate ((ls.map lineComment).map String.ofList)) =
      String.ofList (closeLines ls) := by
  have hfeed : ∀ l ∈ ls.map lineComment, '\n' ∉ l :=
    List.forall_mem_map.mpr fun l hl => by simpa [lineComment] using h.feed_not_mem l hl
  have hreturn : ∀ l ∈ ls.map lineComment, l.getLast? ≠ some '\r' := by
    refine List.forall_mem_map.mpr fun l hl hlast => ?_
    cases l with
    | nil => simp [lineComment] at hlast
    | cons c l =>
      have hblank := h.trimmed (c :: l) hl '\r' (by simpa [lineComment] using hlast)
      revert hblank
      decide
  have hlast : ∀ l ∈ (ls.map lineComment).getLast?, l ≠ [] := by
    intro l hl
    obtain ⟨l, -, rfl⟩ := List.mem_map.mp (List.mem_of_getLast? hl)
    exact List.cons_ne_nil _ _
  have htrimmed : ls.map trimEnd = ls := by
    rw [List.map_congr_left fun l hl => trimEnd_eq_self (h.trimmed l hl), List.map_id']
  rw [commentText_intercalate, commentProse, splitLines_joinLines hfeed hreturn hlast,
    bodies_lineComments, htrimmed, h.squeeze_eq]

/-- The texts that are the prose of comments are those with tidy lines, and comments with given
tidy lines are found by putting `//` and a space in front of each. -/
theorem range_commentText :
    Set.range commentText = {t | ∃ ls, Tidy ls ∧ t = String.ofList (ls.flatMap (· ++ ['\n']))} ∧
    ∀ ls, Tidy ls →
      commentText ("\n".intercalate (ls.map fun l => "// " ++ String.ofList l)) =
        String.ofList (ls.flatMap (· ++ ['\n'])) := by
  have hrender : ∀ ls, Tidy ls →
      commentText ("\n".intercalate (ls.map fun l => "// " ++ String.ofList l)) =
        String.ofList (ls.flatMap (· ++ ['\n'])) := by
    intro ls h
    have hmap : (ls.map fun l => "// " ++ String.ofList l) =
        (ls.map lineComment).map String.ofList := by
      rw [List.map_map]
      refine List.map_congr_left fun l _ => ?_
      rw [Function.comp_apply, lineComment, ← String.toList_inj]
      simp
    rw [hmap]
    exact h.commentText_eq
  refine ⟨Set.ext fun t => ⟨?_, ?_⟩, hrender⟩
  · rintro ⟨raw, rfl⟩
    exact ⟨_, tidy_prose raw.toList, rfl⟩
  · rintro ⟨ls, h, rfl⟩
    exact ⟨_, hrender ls h⟩

/-- Lines that look like an instruction to a tool, a comment and the end of one. -/
theorem range_commentText_markers :
    Tidy ["go:build x".toList, [], " //".toList, "*/".toList] ∧
      commentText ("\n".intercalate ["// go:build x", "// ", "//  //", "// */"]) =
        "go:build x\n\n //\n*/\n" := by
  have h : Tidy ["go:build x".toList, [], " //".toList, "*/".toList] :=
    ⟨by simp, by simp [isBlank], by simp, by simp, by simp [Spaced]⟩
  have htext := range_commentText.2 _ h
  simp only [List.map_cons, List.map_nil, String.ofList_toList] at htext
  exact ⟨h, htext⟩

end GoStyle
