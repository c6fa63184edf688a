import GoStyle.Lint.Rules.Names
import GoStyle.Proofs.SecondReading

/-!
# Clashing forms

When the mixed form of a name in ASCII is its own mixed form. On a second reading only initialisms
in mixed case change (`wordForm_of_not_mixed`), and no form of a first reading is one
(`not_isMixed_wordForm`). So they come from forms that are put together: some without lower-case
characters and one with such behind them, which spell an initialism (`Clashes`). A third reading
changes nothing, because no initialism stands inside another with two characters behind it
(`not_clashes_formsOf`).
-/

namespace GoStyle

/-! ## Initialisms in mixed case -/

/-- Whether a word is an initialism that has lower-case characters, but not in front. -/
def IsMixed (word : List Char) : Prop :=
  isInitialism (toUpper word) ∧ startsLower word = false ∧ ∃ c ∈ word, isLower c

section Forms

variable {word : List Char}

theorem toUpper_of_not_lower (hascii : ∀ c ∈ word, isAscii c) (h : ∀ c ∈ word, isLower c = false) :
    toUpper word = word := by
  rw [toUpper_eq_map hascii,
    List.map_congr_left fun c hc => asciiUpper_of_not_lower (hascii c hc) (h c hc), List.map_id']

theorem not_isLower_of_mem_toUpper (hascii : ∀ c ∈ word, isAscii c) :
    ∀ c ∈ toUpper word, isLower c = false := by
  rw [toUpper_eq_map hascii, List.forall_mem_map]
  exact fun c hc => isLower_asciiUpper (hascii c hc)

/-- A form is the word in upper case too. -/
theorem toUpper_wordForm (h : Unbroken word) (hascii : ∀ c ∈ word, isAscii c) (atStart : Bool) :
    toUpper (wordForm atStart word) = toUpper word := by
  have hmap : ∀ s : List Char, (∀ c ∈ s, isAscii c) →
      toUpper s = (s.map asciiLower).map asciiUpper := by
    intro s hs
    rw [toUpper_eq_map hs, List.map_map]
    exact List.map_congr_left fun c hc => (asciiUpper_asciiLower (hs c hc)).symm
  rw [hmap _ (isAscii_wordForm h hascii atStart), map_asciiLower_wordForm h hascii, ← hmap _ hascii]

/-- No other word changes that is at the start or does not begin in lower case. -/
theorem wordForm_of_not_mixed (h : Unbroken word) (hascii : ∀ c ∈ word, isAscii c) {atStart : Bool}
    (hstart : atStart = true ∨ startsLower word = false) (hmixed : ¬IsMixed word) :
    wordForm atStart word = word := by
  unfold wordForm
  split_ifs with hinitialism hlower hrest
  · rw [Bool.and_eq_true] at hlower
    exact toLower_of_lower hascii (h.isLower_of_startsLower hlower.2)
  · have hfirst : startsLower word = false := by
      rcases hstart with rfl | hfirst
      · simpa using hlower
      · exact hfirst
    refine toUpper_of_not_lower hascii fun c hc => ?_
    by_contra hlow
    exact hmixed ⟨hinitialism, hfirst, c, hc, by simpa using hlow⟩
  · have hfirst : startsLower word = false := by
      rcases hstart with rfl | hfirst
      · simp at hrest
      · exact hfirst
    obtain ⟨c, s, rfl⟩ := List.exists_cons_of_ne_nil h.1
    have hc := hascii c List.mem_cons_self
    rw [capitalized_cons hc, asciiUpper_of_not_lower hc hfirst]
  · rfl

/-- An initialism in mixed case is written in upper case. -/
theorem wordForm_of_mixed (h : IsMixed word) (atStart : Bool) :
    wordForm atStart word = toUpper word := by
  rw [wordForm, if_pos h.1, h.2.1]
  simp

theorem wordForm_ne_of_mixed (hascii : ∀ c ∈ word, isAscii c) (h : IsMixed word) (atStart : Bool) :
    wordForm atStart word ≠ word := by
  intro hform
  obtain ⟨-, -, c, hc, hlower⟩ := id h
  have hupper := not_isLower_of_mem_toUpper hascii c
  rw [← wordForm_of_mixed h atStart, hform, hlower] at hupper
  cases hupper hc

/-- No form is an initialism in mixed case. -/
theorem not_isMixed_wordForm (h : Unbroken word) (hascii : ∀ c ∈ word, isAscii c) (atStart : Bool) :
    ¬IsMixed (wordForm atStart word) := by
  rintro ⟨hinitialism, hstart, c, hc, hlower⟩
  rw [toUpper_wordForm h hascii] at hinitialism
  rw [wordForm, if_pos hinitialism] at hstart hc
  split_ifs at hstart hc with hfirst
  · rw [Bool.and_eq_true] at hfirst
    rw [toLower_of_lower hascii (h.isLower_of_startsLower hfirst.2), hfirst.2] at hstart
    cases hstart
  · rw [not_isLower_of_mem_toUpper hascii c hc] at hlower
    cases hlower

/-- No initialism has an underscore. -/
theorem ne_underscore_of_isInitialism (h : isInitialism (toUpper word)) : ∀ c ∈ word, c ≠ '_' := by
  have htable : ∀ i ∈ initialisms, '_' ∉ i.toList := by decide
  rintro c hc rfl
  obtain ⟨i, hi, hupper⟩ := (isInitialism_iff _).mp h
  refine htable i hi (hupper ▸ ?_)
  exact List.mem_flatMap.mpr ⟨'_', hc, by decide⟩

end Forms

/-! ## Forms that stay -/

/-- Reading words again changes none exactly if no initialism in mixed case is among them. -/
theorem formsOf_eq_self_iff {words : List (List Char)} (h : ∀ w ∈ words, Unbroken w)
    (hascii : ∀ w ∈ words, ∀ c ∈ w, isAscii c)
    (hfollows : words.IsChain fun _ next => startsLower next = false) {atStart : Bool}
    (hstart : atStart = true ∨ ∀ w ∈ words.head?, startsLower w = false) :
    formsOf atStart words = words ↔ ∀ w ∈ words, ¬IsMixed w := by
  induction words generalizing atStart with
  | nil => simp [formsOf]
  | cons word words ih =>
    obtain ⟨hword, hrest⟩ := List.forall_mem_cons.mp h
    obtain ⟨hwascii, hrascii⟩ := List.forall_mem_cons.mp hascii
    have hone : wordForm atStart word = word ↔ ¬IsMixed word :=
      ⟨fun hform hmixed => wordForm_ne_of_mixed hwascii hmixed atStart hform,
        wordForm_of_not_mixed hword hwascii (hstart.imp_right fun h => h word rfl)⟩
    have hhead : ∀ w ∈ words.head?, startsLower w = false := by
      intro w hw
      obtain ⟨more, rfl⟩ := List.head?_eq_some_iff.mp hw
      exact (List.isChain_cons_cons.mp hfollows).1
    rw [formsOf, List.cons_eq_cons, hone, ih hrest hrascii hfollows.tail (Or.inr hhead),
      List.forall_mem_cons]

theorem length_wordForm_of_isAscii {word : List Char} (h : Unbroken word)
    (hascii : ∀ c ∈ word, isAscii c) (atStart : Bool) :
    (wordForm atStart word).length = word.length := by
  simpa using congrArg List.length (map_asciiLower_wordForm h hascii atStart)

/-- Forms make up the same name as the words only if they are the words. -/
theorem flatten_formsOf_eq_iff {words : List (List Char)} (h : ∀ w ∈ words, Unbroken w)
    (hascii : ∀ w ∈ words, ∀ c ∈ w, isAscii c) (atStart : Bool) :
    (formsOf atStart words).flatten = words.flatten ↔ formsOf atStart words = words := by
  have hlengths : (formsOf atStart words).map List.length = words.map List.length := by
    induction words generalizing atStart with
    | nil => rfl
    | cons word words ih =>
      obtain ⟨hword, hrest⟩ := List.forall_mem_cons.mp h
      obtain ⟨hwascii, hrascii⟩ := List.forall_mem_cons.mp hascii
      rw [formsOf, List.map_cons, List.map_cons, length_wordForm_of_isAscii hword hwascii,
        ih hrest hrascii]
  rw [List.eq_iff_flatten_eq, and_iff_left hlengths]

/-! ## Forms that clash -/

/-- Whether forms put together spell an initialism in mixed case: some without lower-case
characters, not preceded by a form that goes on with them, and one with such behind them. -/
def Clashes (forms : List (List Char)) : Prop :=
  ∃ before run last after, forms = before ++ (run ++ [last]) ++ after ∧ run ≠ [] ∧
    isInitialism (toUpper (run.flatten ++ last)) ∧ (∀ f ∈ run, ∀ c ∈ f, isLower c = false) ∧
    (∃ c ∈ last, isLower c) ∧ ∀ f ∈ before.getLast?, ∀ c ∈ f.getLast?, isLower c

theorem joins_eq_false {c d : Char} (hc : isLower c) (hd : isLower d = false) :
    joins c d = false := by
  rw [← Bool.not_eq_true, joins_iff]
  rintro ⟨-, hlower⟩
  rw [hlower hc] at hd
  cases hd

/-- A break that is not in front of an underscore is behind a lower-case character. -/
theorem isLower_of_joins_eq_false {c d : Char} (h : joins c d = false) (hd : d ≠ '_') :
    isLower c := by
  by_contra hlow
  have hjoins : joins c d := joins_iff.mpr ⟨hd, fun hlower => absurd hlower hlow⟩
  rw [h] at hjoins
  cases hjoins

/-- Words without lower-case characters go on with whatever has no underscore. -/
theorem isChain_joinsWord {run : List (List Char)} {last : List Char}
    (hne : ∀ f ∈ run ++ [last], f ≠ []) (hlower : ∀ f ∈ run, ∀ c ∈ f, isLower c = false)
    (hunderscore : ∀ f ∈ run ++ [last], ∀ c ∈ f, c ≠ '_') :
    (run ++ [last]).IsChain fun f g => joinsWord f g := by
  induction run with
  | nil => exact .singleton last
  | cons f run ih =>
    obtain ⟨hfne, hne⟩ := List.forall_mem_cons.mp hne
    obtain ⟨hflower, hlower⟩ := List.forall_mem_cons.mp hlower
    obtain ⟨-, hunderscore⟩ := List.forall_mem_cons.mp hunderscore
    refine List.isChain_cons.mpr ⟨fun g hg => ?_, ih hne hlower hunderscore⟩
    have hgmem := List.mem_of_mem_head? hg
    obtain ⟨d, g, rfl⟩ := List.exists_cons_of_ne_nil (hne g hgmem)
    have hfirst := hunderscore _ hgmem d List.mem_cons_self
    refine joinsWord_iff.mpr ⟨f.getLast hfne, List.getLast?_eq_some_getLast hfne, d, rfl, ?_⟩
    refine joins_iff.mpr ⟨hfirst, fun hlow => ?_⟩
    rw [hflower _ (List.getLast_mem hfne)] at hlow
    cases hlow

/-- Forms that clash are put together to an initialism in mixed case. -/
theorem exists_mixed_of_clashes {forms : List (List Char)} (h : Formed forms)
    (hclash : Clashes forms) : ∃ w ∈ merged forms, IsMixed w := by
  obtain ⟨before, run, last, after, rfl, hne, hinitialism, hrun, ⟨c, hc, hlower⟩, hbefore⟩ := hclash
  have hmem : ∀ f ∈ run ++ [last], f ∈ before ++ (run ++ [last]) ++ after := fun f hf =>
    List.mem_append_left _ (List.mem_append_right _ hf)
  have hunderscore : ∀ f ∈ run ++ [last], ∀ c ∈ f, c ≠ '_' := by
    intro f hf c hc
    refine ne_underscore_of_isInitialism hinitialism c ?_
    rw [← List.flatten_concat]
    exact List.mem_flatten_of_mem hf hc
  have hgroup : (run ++ [last]).splitBy joinsWord = [run ++ [last]] :=
    List.splitBy_of_isChain (by simp)
      (isChain_joinsWord (fun f hf => (h.unbroken f (hmem f hf)).1) hrun hunderscore)
  have hbreak : ∀ f ∈ before.getLast?, ∀ g ∈ (run ++ [last]).head?, joinsWord f g = false := by
    intro f hf g hg
    rw [List.head?_append_of_ne_nil _ hne] at hg
    rw [joinsWord_eq_false_iff]
    intro c hc d hd
    exact joins_eq_false (hbefore f hf c hc)
      (hrun g (List.mem_of_mem_head? hg) d (List.mem_of_mem_head? hd))
  have hbreak' : ∀ f ∈ (before ++ (run ++ [last])).getLast?, ∀ g ∈ after.head?,
      joinsWord f g = false := by
    intro f hf g hg
    obtain rfl : last = f := by simpa using hf
    have hstart := ((List.isChain_append.mp h.follows).2.2 last hf g hg).2
    rw [joinsWord_eq_false_iff]
    intro d hd e he
    have hlast := (h.unbroken last (hmem last (by simp))).isLower_getLast hc hlower d hd
    obtain ⟨more, rfl⟩ := List.head?_eq_some_iff.mp he
    exact joins_eq_false hlast hstart
  refine ⟨(run ++ [last]).flatten, ?_, ?_, ?_, c, ?_, hlower⟩
  · rw [merged, List.splitBy_append hbreak', List.splitBy_append hbreak, hgroup]
    exact List.mem_map_of_mem (by simp)
  · rwa [List.flatten_concat]
  · obtain ⟨first, rest, rfl⟩ := List.exists_cons_of_ne_nil hne
    obtain ⟨d, first, rfl⟩ := List.exists_cons_of_ne_nil
      (h.unbroken first (hmem first (by simp))).1
    exact hrun _ List.mem_cons_self d List.mem_cons_self
  · rw [List.flatten_concat]
    exact List.mem_append_right _ hc

theorem exists_of_isChain_concat {α : Type} {R : α → α → Prop} {l : List α} {last : α}
    (h : (l ++ [last]).IsChain R) : ∀ a ∈ l, ∃ b, R a b := by
  induction l with
  | nil => simp
  | cons a l ih =>
    obtain ⟨hhead, htail⟩ := List.isChain_cons.mp h
    refine List.forall_mem_cons.mpr ⟨?_, ih htail⟩
    have hne : l ++ [last] ≠ [] := by simp
    exact ⟨_, hhead _ (List.head?_eq_some_head hne)⟩

/-- An initialism in mixed case that forms are put together to is a clash of them, unless it is one
of the forms. -/
theorem clashes_of_exists_mixed {forms : List (List Char)} (h : Formed forms)
    (hforms : ∀ f ∈ forms, ¬IsMixed f) {w : List Char} (hw : w ∈ merged forms)
    (hmixed : IsMixed w) : Clashes forms := by
  obtain ⟨group, hgroup, rfl⟩ := List.mem_map.mp hw
  have hmem := fun f => Formed.mem_of_mem_group (f := f) hgroup
  obtain ⟨pre, post, hsplit⟩ := List.append_of_mem hgroup
  have hparts : forms = pre.flatten ++ group ++ post.flatten := by
    rw [← List.flatten_splitBy joinsWord forms, hsplit]
    simp
  obtain ⟨run, last, rfl⟩ := (List.eq_nil_or_concat' group).resolve_left
    (List.ne_nil_of_mem_splitBy hgroup)
  obtain ⟨hinitialism, hstart, c, hc, hlower⟩ := id hmixed
  rw [List.flatten_concat] at hinitialism hc
  have hjoin := List.isChain_of_mem_splitBy hgroup
  have hfollow : (run ++ [last]).IsChain fun f g => Keeps f g ∧ startsLower g = false := by
    have hall := h.follows
    rw [hparts] at hall
    exact (List.isChain_append.mp (List.isChain_append.mp hall).1).2.1
  have hrun : ∀ f ∈ run, ∀ c ∈ f, isLower c = false := by
    intro f hf c hc
    rw [← Bool.not_eq_true]
    intro hlower
    obtain ⟨g, hfg, -, hg⟩ := exists_of_isChain_concat (isChain_and hjoin hfollow) f hf
    obtain ⟨d, hd, e, he, hde⟩ := joinsWord_iff.mp hfg
    have hdlower := (h.unbroken f (hmem f (by simp [hf]))).isLower_getLast hc hlower d hd
    obtain ⟨more, rfl⟩ := List.head?_eq_some_iff.mp he
    rw [joins_eq_false hdlower hg] at hde
    cases hde
  refine ⟨pre.flatten, run, last, post.flatten, hparts, ?_, hinitialism, hrun, ⟨c, ?_, hlower⟩, ?_⟩
  · rintro rfl
    refine hforms last (hmem last (by simp)) ?_
    simpa using hmixed
  · rcases List.mem_append.mp hc with hc | hc
    · obtain ⟨f, hf, hcf⟩ := List.mem_flatten.mp hc
      rw [hrun f hf c hcf] at hlower
      cases hlower
    · exact hc
  · -- The group before ends with a break, which is not before an underscore.
    intro f hf d hd
    rcases List.eq_nil_or_concat' pre with rfl | ⟨pre, group, rfl⟩
    · cases hf
    · have hbreaks := List.isChain_getLast_head_splitBy joinsWord forms
      rw [hsplit] at hbreaks
      obtain ⟨hne, hne', hbreak⟩ :=
        (List.isChain_append.mp hbreaks).2.2 group (by simp) (run ++ [last]) rfl
      rw [List.flatten_concat, List.getLast?_append_of_ne_nil _ hne,
        List.getLast?_eq_some_getLast hne] at hf
      rw [Option.some.inj hf, joinsWord_eq_false_iff] at hbreak
      have hfirst := hmem _ (List.head_mem hne')
      obtain ⟨e, more, hhead⟩ := List.exists_cons_of_ne_nil (h.unbroken _ hfirst).1
      have hunderscore : e ≠ '_' := by
        have he : e ∈ (run ++ [last]).head hne' := by rw [hhead]; exact List.mem_cons_self
        exact ne_underscore_of_isInitialism hmixed.1 e
          (List.mem_flatten_of_mem (List.head_mem hne') he)
      exact isLower_of_joins_eq_false (hbreak d hd e (by rw [hhead]; rfl)) hunderscore

/-! ## Readings after the first -/

/-- Forms that stand side by side are those of words that do. -/
theorem exists_of_formsOf_eq {post : List (List Char)} {f g : List Char} :
    ∀ {words pre : List (List Char)} {atStart : Bool},
      words.IsChain (fun _ next => startsLower next = false) →
      (atStart = true ∨ ∀ w ∈ words.head?, startsLower w = false) →
      formsOf atStart words = pre ++ f :: g :: post →
      ∃ before word next after b, words = before ++ word :: next :: after ∧
        f = wordForm b word ∧ g = wordForm false next ∧ (b = true ∨ startsLower word = false)
  | [], pre, _, _, _, h => by simp [formsOf] at h
  | word :: words, [], atStart, _, hstart, h => by
    obtain ⟨hf, h⟩ := List.cons_eq_cons.mp h
    cases words with
    | nil => cases h
    | cons next words =>
      obtain ⟨hg, -⟩ := List.cons_eq_cons.mp h
      exact ⟨[], word, next, words, atStart, rfl, hf.symm, hg.symm,
        hstart.imp_right fun h => h word rfl⟩
  | word :: words, e :: pre, atStart, hfollows, _, h => by
    obtain ⟨-, h⟩ := List.cons_eq_cons.mp h
    have hhead : ∀ w ∈ words.head?, startsLower w = false := (List.isChain_cons.mp hfollows).1
    obtain ⟨before, w, next, after, b, rfl, hrest⟩ :=
      exists_of_formsOf_eq hfollows.tail (Or.inr hhead) h
    exact ⟨word :: before, w, next, after, b, rfl, hrest⟩

/-- A form with a lower-case character that is not in front has two characters. -/
theorem two_le_length {f : List Char} (hstart : startsLower f = false) {c : Char} (hc : c ∈ f)
    (hlower : isLower c) : 2 ≤ f.length := by
  obtain ⟨d, s, rfl⟩ := List.exists_cons_of_ne_nil (List.ne_nil_of_mem hc)
  rcases List.mem_cons.mp hc with rfl | hc
  · rw [startsLower, hlower] at hstart
    cases hstart
  · have hpos := List.length_pos_of_mem hc
    rw [List.length_cons]
    omega

/-- No initialism stands inside another with two characters behind it. -/
theorem length_le_of_initialism_within : ∀ i ∈ initialisms, ∀ j ∈ initialisms, ∀ n < 6,
    i.toList.isPrefixOf (j.toList.drop n) → j.toList.length ≤ n + i.toList.length + 1 := by
  decide +kernel

/-- The forms of words that stand side by side with breaks between them do not clash. -/
theorem not_clashes_formsOf {words : List (List Char)} (h : Formed words)
    (hbreaks : words.IsChain fun word next => joinsWord word next = false) :
    ¬Clashes (formsOf true words) := by
  rintro ⟨before, run, last, after, hforms, hne, hinitialism, hrun, ⟨c, hc, hlower⟩, -⟩
  obtain ⟨run, f, rfl⟩ := (List.eq_nil_or_concat' run).resolve_left hne
  have hside : formsOf true words = (before ++ run) ++ f :: last :: after := by
    rw [hforms]
    simp
  obtain ⟨wbefore, word, next, wafter, b, rfl, rfl, rfl, hstart⟩ :=
    exists_of_formsOf_eq (h.follows.imp fun _ _ => And.right) (Or.inl rfl) hside
  have hword := h.unbroken word (by simp)
  have hnext := h.unbroken next (by simp)
  have hwascii := h.ascii word (by simp)
  have hnascii := h.ascii next (by simp)
  have hbreak := (List.isChain_cons_cons.mp (List.isChain_append.mp hbreaks).2.1).1
  rw [List.flatten_concat, toUpper_append, toUpper_append, toUpper_wordForm hword hwascii,
    toUpper_wordForm hnext hnascii, ← toUpper_append, ← toUpper_append] at hinitialism
  -- The break is behind a lower-case character, which the form of the word has not.
  obtain ⟨e, more, rfl⟩ := List.exists_cons_of_ne_nil hnext.1
  have hlast := List.getLast?_eq_some_getLast hword.1
  have hend : isLower (word.getLast hword.1) :=
    isLower_of_joins_eq_false (joinsWord_eq_false_iff.mp hbreak _ hlast e rfl)
      (ne_underscore_of_isInitialism hinitialism e (by simp))
  have hmixed : IsMixed word := by
    by_contra hnot
    have hstays := hrun _ (List.mem_append_right run List.mem_cons_self)
    rw [wordForm_of_not_mixed hword hwascii hstart hnot] at hstays
    rw [hstays _ (List.getLast_mem hword.1)] at hend
    cases hend
  have htwo : 2 ≤ (toUpper (e :: more)).length := by
    rw [toUpper_eq_map hnascii, List.length_map, ← length_wordForm_of_isAscii hnext hnascii false]
    exact two_le_length (startsLower_wordForm hnext hnascii) hc hlower
  obtain ⟨j, hj, hupper⟩ := (isInitialism_iff _).mp hinitialism
  obtain ⟨i, hi, hinner⟩ := (isInitialism_iff _).mp hmixed.1
  rw [toUpper_append, toUpper_append, hinner] at hupper
  have hlen := congrArg List.length hupper
  simp only [List.length_append] at hlen
  have hshort : ∀ j ∈ initialisms, j.toList.length < 6 := by decide
  have hj6 := hshort j hj
  have hle := length_le_of_initialism_within i hi j hj (toUpper run.flatten).length (by omega) ?_
  · omega
  · rw [← hupper, List.append_assoc, List.drop_left, List.isPrefixOf_iff_prefix]
    exact List.prefix_append _ _

/-- Forms put together are forms again. -/
theorem Formed.merged {forms : List (List Char)} (h : Formed forms) : Formed (merged forms) := by
  refine ⟨h.hasWords_merged.unbroken, ?_, h.follows_merged.imp fun _ _ h => ⟨h.1.2, h.2⟩⟩
  refine h.hasWords_merged.forall_mem fun c hc => ?_
  obtain ⟨f, hf, hcf⟩ := List.mem_flatten.mp hc
  exact h.ascii f hf c hcf

theorem not_isMixed_formsOf {words : List (List Char)} (h : ∀ w ∈ words, Unbroken w)
    (hascii : ∀ w ∈ words, ∀ c ∈ w, isAscii c) (atStart : Bool) :
    ∀ f ∈ formsOf atStart words, ¬IsMixed f := by
  intro f hf
  obtain ⟨w, hw, b, rfl⟩ := exists_of_mem_formsOf hf
  exact not_isMixed_wordForm (h w hw) (hascii w hw) b

/-- The mixed form of a name that is made up of forms is the name exactly if the forms do not clash.
-/
theorem mixedCaps_flatten {forms : List (List Char)} (h : Formed forms)
    (hforms : ∀ f ∈ forms, ¬IsMixed f) :
    mixedCaps forms.flatten = .ok (formsOf true (merged forms)).flatten ∧
      ((formsOf true (merged forms)).flatten = forms.flatten ↔ ¬Clashes forms) := by
  have hascii : ∀ c ∈ forms.flatten, isAscii c := by
    intro c hc
    obtain ⟨f, hf, hcf⟩ := List.mem_flatten.mp hc
    exact h.ascii f hf c hcf
  have hmerged := h.merged
  have hclash : (∃ w ∈ merged forms, IsMixed w) ↔ Clashes forms :=
    ⟨fun hex => hex.elim fun _ hw => clashes_of_exists_mixed h hforms hw.1 hw.2,
      exists_mixed_of_clashes h⟩
  refine ⟨mixedCaps_eq h.hasWords_merged hascii, ?_⟩
  rw [← flatten_merged forms, flatten_formsOf_eq_iff hmerged.unbroken hmerged.ascii,
    formsOf_eq_self_iff hmerged.unbroken hmerged.ascii (hmerged.follows.imp fun _ _ => And.right)
      (Or.inl rfl), ← hclash, not_exists]
  simp only [not_and]

/-! ## Names that are looked at again -/

/-- Whether a problem is that a name has underscores or an initialism in mixed case. -/
def Problem.IsRenaming (p : Problem) : Prop :=
  p.link = some (effectiveGo "mixed-caps") ∨ p.link = some (reviewGuide "initialisms")

theorem isRenaming_renaming (c : FileContext) (thing : String) (id : Ident) (new : String) :
    (c.renaming thing id new).IsRenaming := by
  unfold FileContext.renaming Problem.IsRenaming
  dsimp only
  split
  · exact Or.inl rfl
  · exact Or.inr rfl

theorem not_isRenaming_of_link {p : Problem} (h : p.link = some (reviewGuide "mixed-caps")) :
    ¬p.IsRenaming := by
  rintro (hlink | hlink) <;> rw [h] at hlink <;> revert hlink <;> decide

/-- A name in capitals has no lower-case characters. -/
theorem not_isAllCaps {s : List Char} {c : Char} (hc : c ∈ s) (hascii : isAscii c)
    (hlower : isLower c) : isAllCaps s = false := by
  have htable : isLower c → (isAsciiUpper c || isAsciiDigit c || c == '_') = false :=
    forall_ascii (P := fun c => isLower c → (isAsciiUpper c || isAsciiDigit c || c == '_') = false)
      (by decide) hascii
  rw [← Bool.not_eq_true]
  intro hcaps
  simp only [isAllCaps, Bool.and_eq_true, List.all_eq_true] at hcaps
  have hall := hcaps.1.2 c hc
  rw [htable hlower] at hall
  cases hall

/-- A name is told to be another exactly if it is no exception and not its own mixed form, names in
capitals aside. -/
theorem FileContext.exists_renaming_iff (c : FileContext) (thing : String)
    (kind? : Option ValueKind) (id : Ident) {new : List Char}
    (hnew : mixedCaps id.name.toList = .ok new)
    (hcaps : new ≠ id.name.toList → isAllCaps id.name.toList = false) :
    ∃ found, c.nameFaults thing kind? id = .ok found ∧ ((∃ p ∈ found, p.IsRenaming) ↔
      c.policy.isKnownException id.name = false ∧ new ≠ id.name.toList) := by
  have hleading : ∀ p ∈ (kind?.bind fun kind => c.leadingK kind id).toList, ¬p.IsRenaming := by
    intro p hp
    rw [Option.mem_toList, Option.bind_eq_some_iff] at hp
    obtain ⟨kind, -, hp⟩ := hp
    obtain ⟨stripped, -, rfl⟩ := Option.map_eq_some_iff.mp hp
    exact not_isRenaming_of_link rfl
  unfold FileContext.nameFaults
  split_ifs with hskip hall
  · refine ⟨[], rfl, iff_of_false (by simp) ?_⟩
    rintro ⟨hknown, hne⟩
    rcases hskip with hblank | hexempt
    · rw [hblank] at hnew hne
      exact hne (Except.ok.inj hnew).symm
    · rw [hknown] at hexempt
      cases hexempt
  · refine ⟨_, rfl, iff_of_false ?_ fun h => ?_⟩
    · rintro ⟨p, hp, hrenaming⟩
      obtain rfl := List.mem_singleton.mp hp
      exact not_isRenaming_of_link rfl hrenaming
    · rw [hcaps h.2] at hall
      cases hall
  · rw [hnew]
    rw [not_or, Bool.not_eq_true] at hskip
    dsimp only
    split_ifs with heq
    · refine ⟨_, rfl, iff_of_false ?_ fun h => h.2 heq⟩
      rintro ⟨p, hp, hrenaming⟩
      exact hleading p hp hrenaming
    · exact ⟨_, rfl, iff_of_true ⟨_, List.mem_append_right _ List.mem_cons_self,
        isRenaming_renaming c thing id (String.ofList new)⟩ ⟨hskip.2, heq⟩⟩

/-- What becomes of the mixed form of a name in ASCII. It has a mixed form again, which is its own
mixed form, and the two are the same exactly if the forms of the words of the name do not clash. So
an identifier that is renamed as it was told to be is told so again exactly if they clash and the
new name is no exception. -/
theorem mixedCaps_again {name : List Char} (hascii : ∀ c ∈ name, isAscii c) :
    ∃ words once twice, HasWords name words ∧ mixedCaps name = .ok once ∧
      mixedCaps once = .ok twice ∧ mixedCaps twice = .ok twice ∧
      (twice = once ↔ ¬Clashes (formsOf true words)) ∧
      ∀ (c : FileContext) (thing : String) (kind? : Option ValueKind) (pos : Pos),
        ∃ found, c.nameFaults thing kind? ⟨String.ofList once, pos⟩ = .ok found ∧
          ((∃ p ∈ found, p.IsRenaming) ↔
            c.policy.isKnownException (String.ofList once) = false ∧
              Clashes (formsOf true words)) := by
  obtain ⟨words, hwords⟩ := exists_hasWords name
  have hunbroken := hwords.unbroken
  have hwascii := hwords.forall_mem hascii
  have hformed : Formed (formsOf true words) :=
    formed_formsOf hunbroken hwascii hwords.keeps true
  have hmerged := hformed.merged
  have hformed' : Formed (formsOf true (merged (formsOf true words))) :=
    formed_formsOf hmerged.unbroken hmerged.ascii (hmerged.follows.imp fun _ _ => And.left) true
  obtain ⟨htwice, hsame⟩ := mixedCaps_flatten hformed (not_isMixed_formsOf hunbroken hwascii true)
  obtain ⟨hthrice, hsame'⟩ :=
    mixedCaps_flatten hformed' (not_isMixed_formsOf hmerged.unbroken hmerged.ascii true)
  have hsettled := not_clashes_formsOf hmerged
    (hformed.follows_merged.imp fun _ _ h => h.1.1)
  rw [hsame'.mpr hsettled] at hthrice
  refine ⟨words, _, _, hwords, mixedCaps_eq hwords hascii, htwice, hthrice, hsame, ?_⟩
  intro c thing kind? pos
  have hcaps : Clashes (formsOf true words) →
      isAllCaps (formsOf true words).flatten = false := by
    rintro ⟨before, run, last, after, hforms, -, -, -, ⟨d, hd, hlower⟩, -⟩
    have hlast : last ∈ formsOf true words := by simp [hforms]
    exact not_isAllCaps (List.mem_flatten_of_mem hlast hd) (hformed.ascii last hlast d hd) hlower
  have hne := not_iff_comm.mp hsame.symm
  let id : Ident := ⟨String.ofList (formsOf true words).flatten, pos⟩
  have hid : id.name.toList = (formsOf true words).flatten := String.toList_ofList
  obtain ⟨found, hfound, hiff⟩ := c.exists_renaming_iff thing kind? id (hid.symm ▸ htwice)
    fun h => hid ▸ hcaps (hne.mp (hid ▸ h))
  exact ⟨found, hfound, by rw [hiff, hid, ne_eq, hne]⟩

/-- The words of `A_pi`, whose forms clash. -/
theorem hasWords_underscored : HasWords ['A', '_', 'p', 'i'] [['A'], ['p', 'i']] := by
  have hfirst : IsWord ['A'] ['_', 'p', 'i'] := .last (by decide)
  have hlast : IsWord ['p', 'i'] [] := .cons (by decide) (.last (by decide))
  exact .cons hfirst (.cons hlast .nil)

/-- The characters of `A_pi` are ASCII characters. -/
theorem isAscii_underscored : ∀ c ∈ ['A', '_', 'p', 'i'], isAscii c :=
  forall_mem_of_all (by decide)

/-- The name has the mixed form `APi`, which has another, and that one stays. -/
theorem mixedCaps_again_underscored : (∀ c ∈ ['A', '_', 'p', 'i'], isAscii c) ∧
    ∃ once twice, mixedCaps ['A', '_', 'p', 'i'] = .ok once ∧ mixedCaps once = .ok twice ∧
      twice ≠ once ∧ mixedCaps twice = .ok twice := by
  obtain ⟨words, once, twice, hwords, honce, htwice, hstays, hsame, -⟩ :=
    mixedCaps_again isAscii_underscored
  have hclash : Clashes (formsOf true words) := by
    rw [← hasWords_underscored.unique hwords]
    exact ⟨[], [['A']], ['P', 'i'], [], by decide, by decide, by decide,
      by simpa using (by decide : isLower 'A' = false), ⟨'i', by decide, by decide⟩, by simp⟩
  exact ⟨isAscii_underscored, once, twice, honce, htwice, fun h => hsame.mp h hclash, hstays⟩

/-- Not every mixed form is its own mixed form: that of `A_pi` is not. -/
theorem mixedCaps_not_idempotent : ¬∀ name : List Char, (∀ c ∈ name, isAscii c) →
    ∀ once, mixedCaps name = .ok once → mixedCaps once = .ok once := by
  intro h
  have honce : mixedCaps ['A', '_', 'p', 'i'] = .ok ['A', 'P', 'i'] :=
    mixedCaps_eq hasWords_underscored isAscii_underscored
  have hword : IsWord ['A', 'P', 'i'] [] :=
    .cons (by decide) (.cons (by decide) (.last (by decide)))
  have htwice : mixedCaps ['A', 'P', 'i'] = .ok ['A', 'P', 'I'] :=
    mixedCaps_eq (.cons hword .nil) (forall_mem_of_all (by decide))
  have hsame := htwice.symm.trans (h _ isAscii_underscored _ honce)
  revert hsame
  decide

end GoStyle
