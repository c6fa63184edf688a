import GoStyle.Proofs.SecondReading

/-!
# The spelling of mixed forms

What a mixed form has in common with the name, for names in ASCII. Reading a name takes away
underscores only (`HasWords.filter_flatten`), and the form of a word differs from the word in case
only, so that the two spell the same (`map_asciiLower_flatten_formsOf`). The first character of a
name stays as it is (`head?_wordForm`). Of the underscores that are left none but one at the start
of the name is within a word, and those in front of a word stand between digits
(`Formed.digits_around`).
-/

namespace GoStyle

/-! ## Underscores that are taken away -/

/-- A name and its words have the same characters, underscores apart. -/
theorem HasWords.filter_flatten {s : List Char} {words : List (List Char)} (h : HasWords s words) :
    words.flatten.filter (· != '_') = s.filter (· != '_') := by
  induction h with
  | nil => rfl
  | @cons word rest words _ _ ih =>
    obtain ⟨n, hrest⟩ := exists_afterWord word rest
    have hdropped : rest.filter (· != '_') = (afterWord word rest).filter (· != '_') := by
      conv_lhs => rw [hrest]
      rw [List.filter_append, List.filter_replicate_of_neg (by simp), List.nil_append]
    rw [List.flatten_cons, List.filter_append, ih, List.filter_append, hdropped]

/-! ## Letters -/

/-- Folding case keeps underscores. -/
theorem map_asciiLower_filter {s : List Char} (hascii : ∀ c ∈ s, isAscii c) :
    (s.filter (· != '_')).map asciiLower = (s.map asciiLower).filter (· != '_') := by
  rw [List.filter_map]
  congr 1
  refine List.filter_congr fun c hc => ?_
  rw [Function.comp_apply, Bool.eq_iff_iff, bne_iff_ne, bne_iff_ne]
  exact not_congr (asciiLower_eq_underscore_iff (hascii c hc)).symm

section Words

variable {words : List (List Char)}

/-- The forms of words spell what the words spell. -/
theorem map_asciiLower_flatten_formsOf (h : ∀ w ∈ words, Unbroken w)
    (hascii : ∀ w ∈ words, ∀ c ∈ w, isAscii c) (atStart : Bool) :
    (formsOf atStart words).flatten.map asciiLower = words.flatten.map asciiLower := by
  induction words generalizing atStart with
  | nil => rfl
  | cons word words ih =>
    obtain ⟨hword, hrest⟩ := List.forall_mem_cons.mp h
    obtain ⟨hwascii, hrascii⟩ := List.forall_mem_cons.mp hascii
    rw [formsOf, List.flatten_cons, List.flatten_cons, List.map_append, List.map_append,
      map_asciiLower_wordForm hword hwascii, ih hrest hrascii]

/-! ## The first character -/

/-- The form of the first word of a name begins like the word. -/
theorem head?_wordForm {word : List Char} (h : Unbroken word) (hascii : ∀ c ∈ word, isAscii c) :
    (wordForm true word).head? = word.head? := by
  unfold wordForm
  split_ifs with hinitialism hstart hlower
  · rw [Bool.true_and] at hstart
    rw [toLower_of_lower hascii (h.isLower_of_startsLower hstart)]
  · obtain ⟨c, s, rfl⟩ := List.exists_cons_of_ne_nil h.1
    have hc : isLower c = false := by simpa [startsLower] using hstart
    rw [toUpper_eq_map hascii, List.map_cons, List.head?_cons, List.head?_cons,
      asciiUpper_of_not_lower (hascii c List.mem_cons_self) hc]
  · simp at hlower
  · rfl

/-- A mixed form begins like the name. -/
theorem HasWords.head?_flatten_formsOf {s : List Char} (h : HasWords s words)
    (hascii : ∀ c ∈ s, isAscii c) : (formsOf true words).flatten.head? = s.head? := by
  cases h with
  | nil => rfl
  | @cons word rest words hword _ =>
    obtain ⟨hunbroken, -⟩ := isWord_iff.mp hword
    have hwascii := (List.forall_mem_append.mp hascii).1
    have hform := (unbroken_wordForm hunbroken hwascii true).1
    rw [formsOf, head?_flatten_cons hform, head?_wordForm hunbroken hwascii,
      List.head?_append_of_ne_nil _ hunbroken.1]

end Words

/-! ## Underscores that are left -/

namespace Formed

variable {form after : List Char} {forms : List (List Char)}

/-- An underscore directly behind a form stands between two digits. -/
theorem digits_behind (h : Formed (form :: forms)) (hforms : forms.flatten = '_' :: after) :
    (∃ c ∈ form.getLast?, isAsciiDigit c) ∧ ∃ d ∈ after.head?, isAsciiDigit d := by
  cases forms with
  | nil => cases hforms
  | cons next forms =>
    obtain ⟨c, tail, rfl⟩ := List.exists_cons_of_ne_nil (h.unbroken next (by simp)).1
    obtain ⟨rfl, rfl⟩ := List.cons_eq_cons.mp hforms
    obtain ⟨⟨hkeeps, -⟩, -⟩ := List.isChain_cons_cons.mp h.follows
    obtain ⟨hbefore, d, hd, hdigit⟩ := hkeeps rfl
    obtain ⟨tail, rfl⟩ := List.head?_eq_some_iff.mp hd
    exact ⟨hbefore, d, rfl, hdigit⟩

/-- An underscore among the characters of forms stands in front of all or between two digits. -/
theorem digits_around (h : Formed forms) {before : List Char}
    (hforms : forms.flatten = before ++ '_' :: after) (hne : before ≠ []) :
    (∃ c ∈ before.getLast?, isAsciiDigit c) ∧ ∃ d ∈ after.head?, isAsciiDigit d := by
  induction forms generalizing before with
  | nil => simp at hforms
  | cons form forms ih =>
    have hunbroken := h.unbroken form List.mem_cons_self
    have hrest : Formed forms := ⟨(List.forall_mem_cons.mp h.unbroken).2,
      (List.forall_mem_cons.mp h.ascii).2, h.follows.tail⟩
    rw [List.flatten_cons, List.append_eq_append_iff] at hforms
    rcases hforms with ⟨more, rfl, hmore⟩ | ⟨inside, rfl, hinside⟩
    · by_cases hnil : more = []
      · subst hnil
        rw [List.append_nil]
        exact h.digits_behind hmore
      · rw [List.getLast?_append_of_ne_nil _ hnil]
        exact ih hrest hmore hnil
    · cases inside with
      | nil =>
        rw [List.append_nil] at h
        exact h.digits_behind hinside.symm
      | cons c inside =>
        -- A form has no underscore inside.
        obtain ⟨rfl, -⟩ := List.cons_eq_cons.mp hinside
        have hmem : '_' ∈ (before ++ '_' :: inside).tail := by
          rw [List.tail_append_of_ne_nil hne]
          simp
        exact absurd rfl (hunbroken.ne_underscore '_' hmem)

/-- An underscore behind the first character of what forms make up stands between two digits. -/
theorem any_isAsciiDigit (h : Formed forms) {n : ℕ} (hn : forms.flatten[n + 1]? = some '_') :
    forms.flatten[n]?.any isAsciiDigit ∧ forms.flatten[n + 2]?.any isAsciiDigit := by
  obtain ⟨hlt, hget⟩ := List.getElem?_eq_some_iff.mp hn
  have hsplit : forms.flatten =
      forms.flatten.take (n + 1) ++ '_' :: forms.flatten.drop (n + 2) := by
    rw [← hget, List.getElem_cons_drop, List.take_append_drop]
  have hne : forms.flatten.take (n + 1) ≠ [] := by
    rw [ne_eq, List.take_eq_nil_iff, not_or]
    exact ⟨Nat.succ_ne_zero n, List.ne_nil_of_length_pos (Nat.zero_lt_of_lt hlt)⟩
  obtain ⟨⟨c, hc, hbefore⟩, d, hd, hafter⟩ := h.digits_around hsplit hne
  rw [List.getLast?_take, if_neg (Nat.succ_ne_zero n), Nat.add_sub_cancel,
    List.getElem?_eq_getElem (Nat.lt_of_succ_lt hlt), Option.some_or] at hc
  rw [List.head?_drop] at hd
  rw [List.getElem?_eq_getElem (Nat.lt_of_succ_lt hlt), hc, hd]
  exact ⟨hbefore, hafter⟩

end Formed

/-! ## Mixed forms -/

theorem isExported_eq (name : String) : isExported name = name.toList.head?.any isUpper := by
  unfold isExported
  cases name.toList <;> rfl

/-- The mixed form of a name in ASCII spells the name: without underscores the two are equal up to
the case of letters, and they begin with the same character, so that both are exported or neither
is. An underscore behind the first character of the mixed form stands between two digits. -/
theorem mixedCaps_spelling {name : String} (hascii : ∀ c ∈ name.toList, isAscii c) :
    ∃ new, mixedCaps name.toList = .ok new ∧
      equalIgnoringAsciiCase (new.filter (· != '_')) (name.toList.filter (· != '_')) ∧
      new.head? = name.toList.head? ∧ isExported (String.ofList new) = isExported name ∧
      ∀ n, new[n + 1]? = some '_' → new[n]?.any isAsciiDigit ∧ new[n + 2]?.any isAsciiDigit := by
  obtain ⟨words, hwords⟩ := exists_hasWords name.toList
  have hunbroken := hwords.unbroken
  have hwascii := hwords.forall_mem hascii
  have hformed : Formed (formsOf true words) :=
    formed_formsOf hunbroken hwascii hwords.keeps true
  have hhead := hwords.head?_flatten_formsOf hascii
  have hforms := List.forall_mem_flatten.mpr hformed.ascii
  refine ⟨_, mixedCaps_eq hwords hascii, ?_, hhead, ?_, fun n => hformed.any_isAsciiDigit⟩
  · rw [equalIgnoringAsciiCase, beq_iff_eq, map_asciiLower_filter hforms,
      map_asciiLower_flatten_formsOf hunbroken hwascii,
      ← map_asciiLower_filter (List.forall_mem_flatten.mpr hwascii), hwords.filter_flatten]
  · rw [isExported_eq, isExported_eq, String.toList_ofList, hhead]

/-- A name with underscores between and behind digits, and in front. -/
theorem mixedCaps_spelling_versioned : (∀ c ∈ "_utf8_1__2_id_".toList, isAscii c) ∧
    ∃ new, mixedCaps "_utf8_1__2_id_".toList = .ok new ∧
      equalIgnoringAsciiCase (new.filter (· != '_')) "utf812id".toList ∧
      new.head? = some '_' ∧ isExported (String.ofList new) = false ∧
      ∀ n, new[n + 1]? = some '_' → new[n]?.any isAsciiDigit ∧ new[n + 2]?.any isAsciiDigit := by
  have hascii : ∀ c ∈ "_utf8_1__2_id_".toList, isAscii c := forall_mem_of_all (by decide)
  obtain ⟨new, hnew, hspelled, hhead, hexported, hdigits⟩ := mixedCaps_spelling hascii
  exact ⟨hascii, new, hnew, hspelled, hhead, hexported, hdigits⟩

end GoStyle
