import Mathlib.Data.List.Chain
import GoStyle.Proofs.Overruns

/-!
# Words of ASCII names

A name in ASCII is a list of words (`HasWords`), none of which has a break inside (`Unbroken`), and
its mixed form is the forms of these words put together (`mixedCaps_eq`), since no word of it has a
form that is longer.

The form of an unbroken word is the word, the word in upper case or, behind other words, the word
with a capital in front (`wordForm_cases`). So forms are unbroken again and differ from words in
case only.
-/

namespace GoStyle

/-! ## Case in ASCII -/

section Case

variable {c : Char}

theorem isLower_asciiUpper (h : isAscii c) : isLower (asciiUpper c) = false :=
  forall_ascii (P := fun c => isLower (asciiUpper c) = false) (by decide) h

theorem asciiUpper_of_not_lower (h : isAscii c) : isLower c = false → asciiUpper c = c :=
  forall_ascii (P := fun c => isLower c = false → asciiUpper c = c) (by decide) h

theorem asciiLower_of_lower (h : isAscii c) : isLower c → asciiLower c = c :=
  forall_ascii (P := fun c => isLower c → asciiLower c = c) (by decide) h

theorem asciiLower_asciiUpper (h : isAscii c) : asciiLower (asciiUpper c) = asciiLower c :=
  forall_ascii (P := fun c => asciiLower (asciiUpper c) = asciiLower c) (by decide) h

theorem asciiUpper_asciiLower (h : isAscii c) : asciiUpper (asciiLower c) = asciiUpper c :=
  forall_ascii (P := fun c => asciiUpper (asciiLower c) = asciiUpper c) (by decide) h

theorem isAscii_of_asciiLower (h : isAscii c) : isAscii (asciiLower c) ∧ isAscii (asciiUpper c) :=
  forall_ascii (P := fun c => isAscii (asciiLower c) ∧ isAscii (asciiUpper c)) (by decide) h

/-- Underscores and digits have no case. -/
theorem asciiLower_eq_underscore_iff (h : isAscii c) : asciiLower c = '_' ↔ c = '_' :=
  forall_ascii (P := fun c => asciiLower c = '_' ↔ c = '_') (by decide) h

theorem isAsciiDigit_asciiLower (h : isAscii c) : isAsciiDigit (asciiLower c) = isAsciiDigit c :=
  forall_ascii (P := fun c => isAsciiDigit (asciiLower c) = isAsciiDigit c) (by decide) h

end Case

theorem toUpper_eq_map : ∀ {s : List Char}, (∀ c ∈ s, isAscii c) → toUpper s = s.map asciiUpper
  | [], _ => rfl
  | c :: s, h => by
    rw [toUpper_cons, upperOf, if_pos (h c List.mem_cons_self),
      toUpper_eq_map fun d hd => h d (List.mem_cons_of_mem c hd)]
    rfl

theorem toLowerAfter_eq_map : ∀ {before s : List Char}, (∀ c ∈ s, isAscii c) →
    toLowerAfter before s = s.map asciiLower
  | _, [], _ => rfl
  | before, c :: s, h => by
    have hsigma : c ≠ 'Σ' := by
      rintro rfl
      exact absurd (h _ List.mem_cons_self) (by decide)
    rw [toLowerAfter, if_neg hsigma, lowerOf, if_pos (h c List.mem_cons_self),
      toLowerAfter_eq_map fun d hd => h d (List.mem_cons_of_mem c hd)]
    rfl

theorem toLower_eq_map {s : List Char} (h : ∀ c ∈ s, isAscii c) : toLower s = s.map asciiLower :=
  toLowerAfter_eq_map h

/-! ## Words without breaks -/

/-- Whether a character stays in the word of the one before it. -/
def joins (c d : Char) : Bool :=
  !wordEnds c [d]

theorem joins_iff {c d : Char} : joins c d ↔ d ≠ '_' ∧ (isLower c → isLower d) := by
  by_cases hd : d = '_' <;> cases hc : isLower c <;> cases hl : isLower d <;>
    simp [joins, wordEnds, hd, hc, hl]

/-- A word without a break inside. -/
def Unbroken (word : List Char) : Prop :=
  word ≠ [] ∧ word.IsChain fun c d => joins c d

/-- What is read as a word has no break inside and one behind. -/
theorem isWord_iff {rest : List Char} : ∀ {word : List Char}, IsWord word rest ↔
    Unbroken word ∧ ∀ c ∈ word.getLast?, wordEnds c rest
  | [] => iff_of_false (fun h => h.ne_nil rfl) fun h => h.1.1 rfl
  | [c] => by
    constructor
    · intro h
      cases h with
      | last hend => exact ⟨⟨by simp, by simp⟩, by simpa using hend⟩
      | cons _ h => exact absurd rfl h.ne_nil
    · exact fun h => .last (h.2 c rfl)
  | c :: d :: word => by
    have hends : wordEnds c (d :: word ++ rest) = wordEnds c [d] := rfl
    have hjoins : joins c d = true ↔ wordEnds c [d] = false := by rw [joins, Bool.not_eq_true']
    constructor
    · intro h
      cases h with
      | cons hgoes h =>
        obtain ⟨⟨-, hchain⟩, hlast⟩ := isWord_iff.mp h
        refine ⟨⟨by simp, List.isChain_cons_cons.mpr ⟨hjoins.mpr (hends ▸ hgoes), hchain⟩⟩, ?_⟩
        rwa [List.getLast?_cons_cons]
    · rintro ⟨⟨-, hchain⟩, hlast⟩
      obtain ⟨hcd, hchain⟩ := List.isChain_cons_cons.mp hchain
      rw [List.getLast?_cons_cons] at hlast
      exact .cons (hends.trans (hjoins.mp hcd)) (isWord_iff.mpr ⟨⟨by simp, hchain⟩, hlast⟩)

namespace Unbroken

variable {word : List Char}

/-- Behind a lower-case character all are. -/
theorem isLower_after (h : Unbroken word) {before after : List Char} {c : Char}
    (hword : word = before ++ c :: after) (hc : isLower c) : ∀ d ∈ after, isLower d := by
  have hchain : (c :: after).IsChain fun c d => joins c d :=
    (List.isChain_append.mp (hword ▸ h.2)).2.1
  clear hword
  intro d hd
  induction after generalizing c with
  | nil => cases hd
  | cons e after ih =>
    obtain ⟨hce, hrest⟩ := List.isChain_cons_cons.mp hchain
    have he := (joins_iff.mp hce).2 hc
    rcases List.mem_cons.mp hd with rfl | hd
    · exact he
    · exact ih he hrest hd

/-- A word with a lower-case character ends with one. -/
theorem isLower_getLast (h : Unbroken word) {c : Char} (hmem : c ∈ word) (hc : isLower c) :
    ∀ d ∈ word.getLast?, isLower d := by
  intro d hd
  obtain ⟨before, after, hword⟩ := List.append_of_mem hmem
  rw [hword, List.getLast?_append_cons, Option.mem_def] at hd
  rcases List.mem_cons.mp (List.mem_of_getLast? hd) with rfl | hd
  · exact hc
  · exact h.isLower_after hword hc d hd

/-- A word that begins with a lower-case character is in lower case. -/
theorem isLower_of_startsLower (h : Unbroken word) (hstart : startsLower word) :
    ∀ c ∈ word, isLower c := by
  cases word with
  | nil => cases hstart
  | cons c word =>
    have hword : c :: word = [] ++ c :: word := rfl
    exact List.forall_mem_cons.mpr ⟨hstart, h.isLower_after hword hstart⟩

/-- An underscore stands at most in front. -/
theorem ne_underscore (h : Unbroken word) : ∀ c ∈ word.tail, c ≠ '_' := by
  obtain ⟨-, hchain⟩ := h
  induction word with
  | nil => simp
  | cons c word ih =>
    cases word with
    | nil => simp
    | cons d word =>
      obtain ⟨hcd, hrest⟩ := List.isChain_cons_cons.mp hchain
      exact List.forall_mem_cons.mpr ⟨(joins_iff.mp hcd).1, ih hrest⟩

end Unbroken

/-! ## The words of a name -/

/-- A name, with the words that are read in it. -/
inductive HasWords : List Char → List (List Char) → Prop
  | nil : HasWords [] []
  | cons {word rest words} : IsWord word rest → HasWords (afterWord word rest) words →
    HasWords (word ++ rest) (word :: words)

/-- The forms of words, the first of which may stand at the start of a name. -/
def formsOf : Bool → List (List Char) → List (List Char)
  | _, [] => []
  | atStart, word :: words => wordForm atStart word :: formsOf false words

namespace HasWords

variable {s : List Char} {words : List (List Char)}

theorem unbroken (h : HasWords s words) : ∀ word ∈ words, Unbroken word := by
  induction h with
  | nil => simp
  | cons hword _ ih => exact List.forall_mem_cons.mpr ⟨(isWord_iff.mp hword).1, ih⟩

/-- A name has one list of words only. -/
theorem unique (h : HasWords s words) {words' : List (List Char)} (h' : HasWords s words') :
    words = words' := by
  induction h generalizing words' with
  | nil =>
    generalize hs : ([] : List Char) = s at h'
    cases h' with
    | nil => rfl
    | cons hword => exact absurd (List.append_eq_nil_iff.mp hs.symm).1 hword.ne_nil
  | @cons word rest words hword _ ih =>
    generalize hs : word ++ rest = s at h'
    cases h' with
    | nil => exact absurd (List.append_eq_nil_iff.mp hs).1 hword.ne_nil
    | cons hword' hrest =>
      obtain ⟨rfl, rfl⟩ := hword.unique hword' hs
      rw [ih hrest]

theorem forall_afterWord {P : Char → Prop} {word rest : List Char} (h : ∀ c ∈ rest, P c) :
    ∀ c ∈ afterWord word rest, P c := by
  obtain ⟨n, hrest⟩ := exists_afterWord word rest
  exact fun c hc => h c (hrest ▸ List.mem_append_right _ hc)

/-- The words have no other characters than the name. -/
theorem forall_mem {P : Char → Prop} (h : HasWords s words) (hs : ∀ c ∈ s, P c) :
    ∀ word ∈ words, ∀ c ∈ word, P c := by
  induction h with
  | nil => simp
  | cons _ _ ih =>
    obtain ⟨hword, hrest⟩ := List.forall_mem_append.mp hs
    exact List.forall_mem_cons.mpr ⟨hword, ih (forall_afterWord hrest)⟩

end HasWords

theorem exists_hasWords (s : List Char) : ∃ words, HasWords s words := by
  induction hn : s.length using Nat.strong_induction_on generalizing s with
  | _ n ih =>
    by_cases hs : s = []
    · exact ⟨[], hs ▸ .nil⟩
    · obtain ⟨word, rest, hword, rfl⟩ := exists_isWord hs
      have hlt : (afterWord word rest).length < n := by
        obtain ⟨k, hrest⟩ := exists_afterWord word rest
        have hlen := congrArg List.length hrest
        have hpos := List.length_pos_of_ne_nil hword.ne_nil
        rw [List.length_append] at hn hlen
        omega
      obtain ⟨words, hwords⟩ := ih _ hlt _ rfl
      exact ⟨word :: words, .cons hword hwords⟩

/-! ## Forms of words -/

section Forms

variable {word : List Char}

theorem isLower_ne_underscore {c : Char} (h : isLower c) : c ≠ '_' := by
  rintro rfl
  exact absurd h (by decide)

theorem unbroken_of_one_case {lower : Bool} (hne : word ≠ []) (h : ∀ c ∈ word, isLower c = lower)
    (htail : ∀ c ∈ word.tail, c ≠ '_') : Unbroken word := by
  refine ⟨hne, ?_⟩
  induction word with
  | nil => simp
  | cons c word ih =>
    cases word with
    | nil => simp
    | cons d word =>
      obtain ⟨hc, hrest⟩ := List.forall_mem_cons.mp h
      obtain ⟨hd, htail⟩ := List.forall_mem_cons.mp htail
      have hcd : joins c d := joins_iff.mpr
        ⟨hd, fun hlower => (hrest d List.mem_cons_self).trans (hc.symm.trans hlower)⟩
      exact List.isChain_cons_cons.mpr ⟨hcd, ih (by simp) hrest htail⟩

theorem toLower_of_lower (hascii : ∀ c ∈ word, isAscii c) (h : ∀ c ∈ word, isLower c) :
    toLower word = word := by
  rw [toLower_eq_map hascii,
    List.map_congr_left fun c hc => asciiLower_of_lower (hascii c hc) (h c hc), List.map_id']

/-- A word in lower case stays at the start of a name. -/
theorem wordForm_of_lower (hascii : ∀ c ∈ word, isAscii c) (h : ∀ c ∈ word, isLower c)
    (hne : word ≠ []) : wordForm true word = word := by
  have hstart : startsLower word := by
    obtain ⟨c, word, rfl⟩ := List.exists_cons_of_ne_nil hne
    exact h c List.mem_cons_self
  rw [wordForm, hstart, toLower_of_lower hascii h]
  simp

/-- The form of an unbroken word is the word, in upper case, or with a capital in front. -/
theorem wordForm_cases (h : Unbroken word) (hascii : ∀ c ∈ word, isAscii c) (atStart : Bool) :
    wordForm atStart word = word ∨ wordForm atStart word = word.map asciiUpper ∨
      wordForm atStart word = capitalized word := by
  unfold wordForm
  split_ifs with hinitialism hstart
  · rw [Bool.and_eq_true] at hstart
    exact Or.inl (toLower_of_lower hascii (h.isLower_of_startsLower hstart.2))
  · exact Or.inr (Or.inl (toUpper_eq_map hascii))
  · exact Or.inr (Or.inr rfl)
  · exact Or.inl rfl

theorem capitalized_cons {c : Char} (hc : isAscii c) (s : List Char) :
    capitalized (c :: s) = asciiUpper c :: s := by
  rw [capitalized, upperOf, if_pos hc]
  rfl

/-- A form differs from the word in case only. -/
theorem map_asciiLower_wordForm (h : Unbroken word) (hascii : ∀ c ∈ word, isAscii c)
    (atStart : Bool) : (wordForm atStart word).map asciiLower = word.map asciiLower := by
  rcases wordForm_cases h hascii atStart with hform | hform | hform
  · rw [hform]
  · rw [hform, List.map_map]
    exact List.map_congr_left fun c hc => asciiLower_asciiUpper (hascii c hc)
  · rw [hform]
    cases word with
    | nil => rfl
    | cons c word =>
      have hc := hascii c List.mem_cons_self
      rw [capitalized_cons hc, List.map_cons, asciiLower_asciiUpper hc, List.map_cons]

theorem isAscii_wordForm (h : Unbroken word) (hascii : ∀ c ∈ word, isAscii c) (atStart : Bool) :
    ∀ c ∈ wordForm atStart word, isAscii c := by
  rcases wordForm_cases h hascii atStart with hform | hform | hform
  · rwa [hform]
  · rw [hform, List.forall_mem_map]
    exact fun c hc => (isAscii_of_asciiLower (hascii c hc)).2
  · rw [hform]
    cases word with
    | nil => simp [capitalized]
    | cons c word =>
      obtain ⟨hc, hrest⟩ := List.forall_mem_cons.mp hascii
      rw [capitalized_cons hc]
      exact List.forall_mem_cons.mpr ⟨(isAscii_of_asciiLower hc).2, hrest⟩

/-- A form has no break inside. -/
theorem unbroken_wordForm (h : Unbroken word) (hascii : ∀ c ∈ word, isAscii c) (atStart : Bool) :
    Unbroken (wordForm atStart word) := by
  rcases wordForm_cases h hascii atStart with hform | hform | hform
  · rwa [hform]
  · rw [hform]
    refine unbroken_of_one_case (by simpa using h.1)
      (List.forall_mem_map.mpr fun c hc => isLower_asciiUpper (hascii c hc)) ?_
    rw [← List.map_tail, List.forall_mem_map]
    intro c hc hupper
    have hc' := hascii c (List.mem_of_mem_tail hc)
    have hlower := asciiLower_asciiUpper hc'
    rw [hupper] at hlower
    exact h.ne_underscore c hc ((asciiLower_eq_underscore_iff hc').mp hlower.symm)
  · rw [hform]
    obtain ⟨hne, hchain⟩ := h
    cases word with
    | nil => exact absurd rfl hne
    | cons c word =>
      rw [capitalized_cons (hascii c List.mem_cons_self)]
      refine ⟨by simp, ?_⟩
      cases word with
      | nil => simp
      | cons d word =>
        obtain ⟨hcd, hrest⟩ := List.isChain_cons_cons.mp hchain
        refine List.isChain_cons_cons.mpr
          ⟨joins_iff.mpr ⟨(joins_iff.mp hcd).1, fun hupper => ?_⟩, hrest⟩
        rw [isLower_asciiUpper (hascii c List.mem_cons_self)] at hupper
        cases hupper

/-- Behind other words a form does not begin in lower case. -/
theorem startsLower_wordForm (h : Unbroken word) (hascii : ∀ c ∈ word, isAscii c) :
    startsLower (wordForm false word) = false := by
  obtain ⟨c, s, rfl⟩ := List.exists_cons_of_ne_nil h.1
  have hc := hascii c List.mem_cons_self
  unfold wordForm
  split_ifs with hinitialism hstart hlower
  · cases hstart
  · rw [toUpper_eq_map hascii]
    exact isLower_asciiUpper hc
  · rw [capitalized_cons hc]
    exact isLower_asciiUpper hc
  · rw [← Bool.not_eq_true]
    intro hstart
    refine hlower ?_
    rw [toLower_of_lower hascii (h.isLower_of_startsLower hstart)]
    simp

end Forms

/-! ## Mixed forms -/

/-- No word in ASCII has a longer form. -/
theorem not_mem_sharpWords {atStart : Bool} {word : List Char} (h : ∀ c ∈ word, isAscii c) :
    word ∉ sharpWords atStart := by
  intro hsharp
  have hascii := h 'ß' (mem_of_mem_sharpWords atStart word hsharp)
  exact absurd hascii (by decide)

/-- Reading a name in ASCII gives the forms of its words. -/
theorem mixedFrom_eq {s : List Char} {words : List (List Char)} (h : HasWords s words)
    (hascii : ∀ c ∈ s, isAscii c) (atStart : Bool) :
    mixedFrom atStart [] s = .ok (formsOf atStart words).flatten := by
  induction h generalizing atStart with
  | nil => rw [mixedFrom]; rfl
  | cons hword _ ih =>
    obtain ⟨hin, hrest⟩ := List.forall_mem_append.mp hascii
    rw [mixedFrom_append atStart hword, List.reverse_nil, List.nil_append,
      finishWord_of_not_mem (not_mem_sharpWords hin)]
    dsimp only [Except.bind]
    rw [ih (HasWords.forall_afterWord hrest)]
    rfl

/-- The mixed form of a name in ASCII is the forms of its words, also if it is in lower case. -/
theorem mixedCaps_eq {s : List Char} {words : List (List Char)} (h : HasWords s words)
    (hascii : ∀ c ∈ s, isAscii c) : mixedCaps s = .ok (formsOf true words).flatten := by
  unfold mixedCaps
  split_ifs with hstays
  · rcases hstays with rfl | hlower
    · have hone : HasWords ['_'] [['_']] := .cons (.last (by decide)) .nil
      rw [h.unique hone]
      rfl
    · cases s with
      | nil =>
        rw [h.unique .nil]
        rfl
      | cons c s =>
        have hall := List.all_eq_true.mp hlower
        have hunbroken : Unbroken (c :: s) :=
          unbroken_of_one_case (by simp) hall fun d hd =>
            isLower_ne_underscore (hall d (List.mem_of_mem_tail hd))
        have hword : IsWord (c :: s) [] := isWord_iff.mpr ⟨hunbroken, fun _ _ => rfl⟩
        have hafter : afterWord (c :: s) [] = [] := by
          obtain ⟨n, hrest⟩ := exists_afterWord (c :: s) []
          exact (List.append_eq_nil_iff.mp hrest.symm).2
        have hone : HasWords (c :: s) [c :: s] := by
          have hcons := HasWords.cons hword (hafter.symm ▸ HasWords.nil)
          rwa [List.append_nil] at hcons
        rw [h.unique hone, formsOf, wordForm_of_lower hascii hall (by simp)]
        simp [formsOf]
  · exact mixedFrom_eq h hascii true

end GoStyle
