import GoStyle.Lint.MixedCaps
import GoStyle.Proofs.AsciiForms

/-!
# Initialisms

How long the form of a word is (`length_wordForm`): as long as the word, except that `ß` becomes
`SS`. That happens in six words only, `sharpWords`, since no initialism has an `SS` but `CSS`, `XSS`
and `SSH` (`mem_sharpWords`). Ligatures never matter: what they become is part of no initialism.
-/

namespace GoStyle

/-- The words whose upper-case form is an initialism and longer than the word. A first word that
begins with a lower-case character gets its lower-case form instead, which is not. -/
def sharpWords (atStart : Bool) : List (List Char) :=
  if atStart then [['C', 'ß'], ['X', 'ß']]
  else [['C', 'ß'], ['c', 'ß'], ['X', 'ß'], ['x', 'ß'], ['ß', 'H'], ['ß', 'h']]

theorem isInitialism_iff (u : List Char) : isInitialism u ↔ ∃ i ∈ initialisms, u = i.toList := by
  simp only [isInitialism, List.contains_iff_mem]
  constructor
  · exact fun h => ⟨_, h, String.toList_ofList.symm⟩
  · rintro ⟨i, hi, rfl⟩
    rwa [String.ofList_toList]

/-! ## What initialisms are made of -/

theorem all_isAscii_of_mem_initialisms : ∀ i ∈ initialisms, i.toList.all isAscii := by
  decide

/-- No initialism has the upper-case form of a ligature in it. -/
theorem ligature_not_within {i : String} (hi : i ∈ initialisms) :
    ∀ c ∈ ligatures, ¬upperOf c <:+: i.toList := by
  have htried : ∀ i ∈ initialisms, ligatures.all fun c => ¬upperOf c <:+: i.toList := by
    decide
  exact forall_mem_of_all (htried i hi)

/-- Where an initialism has an `SS`. -/
theorem initialism_around_sharp : ∀ i ∈ initialisms, ∀ n < i.length,
    (i.toList.drop n).take 2 = ['S', 'S'] → (i.toList.take n, i.toList.drop (n + 2)) ∈
      [(['C'], []), (['X'], []), ([], ['H'])] := by
  decide +kernel

theorem eq_asciiUpper_or {c : Char} (h : isAscii c) :
    c = asciiUpper c ∨ c = asciiLower (asciiUpper c) :=
  forall_ascii (P := fun c => c = asciiUpper c ∨ c = asciiLower (asciiUpper c)) (by decide) h

/-- The character of which one of three letters is the upper-case form is that letter, in either
case. -/
theorem eq_of_upperOf_eq {c d : Char} (hd : d ∈ ['C', 'X', 'H']) (h : upperOf c = [d]) :
    c = d ∨ c = asciiLower d := by
  have hletters : ['C', 'X', 'H'].all isAscii := by decide
  have hform : ∀ e ∈ upperOf c, isAscii e := by
    rw [h]
    simpa using List.all_eq_true.mp hletters d hd
  rcases isAscii_or_mem_of_upperOf hform with hc | hc
  · have hcase := eq_asciiUpper_or hc
    rw [upperOf, if_pos hc, List.singleton_inj] at h
    rwa [h] at hcase
  · have htried : ∀ c ∈ asciiPretenders, upperOf c ∉ [['C'], ['X'], ['H']] :=
      forall_mem_of_all (by decide)
    have := htried c hc
    rw [h] at this
    simp_all

/-! ## Words that become initialisms -/

section Word

variable {word : List Char}

theorem isAscii_of_isInitialism (h : isInitialism (toUpper word)) {c d : Char} (hc : c ∈ word)
    (hd : d ∈ upperOf c) : isAscii d := by
  obtain ⟨i, hi, hup⟩ := (isInitialism_iff _).mp h
  refine List.all_eq_true.mp (all_isAscii_of_mem_initialisms i hi) d ?_
  rw [← hup, toUpper, List.mem_flatMap]
  exact ⟨c, hc, hd⟩

/-- In a word that becomes an initialism every character but `ß` becomes one. -/
theorem length_upperOf_of_isInitialism (h : isInitialism (toUpper word)) {c : Char}
    (hc : c ∈ word) : c = 'ß' ∨ (upperOf c).length = 1 := by
  rcases length_upperOf fun d hd => isAscii_of_isInitialism h hc hd with hsharp | hlig | hone
  · exact Or.inl hsharp
  · obtain ⟨i, hi, hup⟩ := (isInitialism_iff _).mp h
    obtain ⟨s, t, rfl⟩ := List.append_of_mem hc
    rw [toUpper_append, toUpper_cons] at hup
    exact absurd ⟨toUpper s, toUpper t, by rw [← hup, List.append_assoc]⟩
      (ligature_not_within hi c hlig)
  · exact Or.inr hone

theorem isInitialism_of_mem_sharpWords : ∀ b, ∀ w ∈ sharpWords b, isInitialism (toUpper w) := by
  decide

theorem mem_of_mem_sharpWords : ∀ b, ∀ w ∈ sharpWords b, 'ß' ∈ w := by
  decide

/-- A word with a `ß` that becomes an initialism is one of six. -/
theorem mem_sharpWords (h : isInitialism (toUpper word)) (hsharp : 'ß' ∈ word) :
    word ∈ sharpWords false := by
  obtain ⟨i, hi, hup⟩ := (isInitialism_iff _).mp h
  obtain ⟨s, t, rfl⟩ := List.append_of_mem hsharp
  have hss : upperOf 'ß' = ['S', 'S'] := by decide
  rw [toUpper_append, toUpper_cons, hss] at hup
  have hlen := congrArg List.length hup
  simp only [List.length_append, List.length_cons, List.length_nil, String.length_toList] at hlen
  have htake : i.toList.take (toUpper s).length = toUpper s := by rw [← hup, List.take_left]
  have hdrop : i.toList.drop (toUpper s).length = 'S' :: 'S' :: toUpper t := by
    rw [← hup, List.drop_left]
    rfl
  have hparts := initialism_around_sharp i hi (toUpper s).length (by omega) (by rw [hdrop]; rfl)
  rw [← List.drop_drop, hdrop, htake] at hparts
  simp only [List.drop_succ_cons, List.drop_zero, List.mem_cons, Prod.mk.injEq, List.not_mem_nil,
    or_false, toUpper_eq_nil_iff] at hparts
  rcases hparts with ⟨hs, rfl⟩ | ⟨hs, rfl⟩ | ⟨rfl, ht⟩
  · obtain ⟨c, rfl, hc⟩ := toUpper_eq_singleton hs
    rcases eq_of_upperOf_eq (by decide) hc with rfl | rfl <;> decide
  · obtain ⟨c, rfl, hc⟩ := toUpper_eq_singleton hs
    rcases eq_of_upperOf_eq (by decide) hc with rfl | rfl <;> decide
  · obtain ⟨c, rfl, hc⟩ := toUpper_eq_singleton ht
    rcases eq_of_upperOf_eq (by decide) hc with rfl | rfl <;> decide

/-! ## Forms -/

theorem length_capitalized (s : List Char) : (capitalized s).length = s.length := by
  cases s <;> simp [capitalized]

/-- A word without `ß` that becomes an initialism keeps its length, in either case. -/
theorem length_of_isInitialism (h : isInitialism (toUpper word)) (hsharp : 'ß' ∉ word) :
    (toUpper word).length = word.length ∧ (toLower word).length = word.length := by
  constructor
  · refine length_toUpper fun c hc => ?_
    rcases length_upperOf_of_isInitialism h hc with rfl | hone
    · exact absurd hc hsharp
    · exact hone
  · exact length_toLowerAfter [] fun c hc =>
      length_lowerOf fun d hd => isAscii_of_isInitialism h hc hd

/-- Only `sharpWords` have forms of another length, one character more. -/
theorem length_wordForm (atStart : Bool) (word : List Char) :
    (wordForm atStart word).length = word.length + if word ∈ sharpWords atStart then 1 else 0 := by
  by_cases h : isInitialism (toUpper word)
  · by_cases hsharp : 'ß' ∈ word
    · have htried : ∀ b, ∀ w ∈ sharpWords false,
          (wordForm b w).length = w.length + if w ∈ sharpWords b then 1 else 0 := by decide
      exact htried atStart word (mem_sharpWords h hsharp)
    · rw [if_neg fun hw => hsharp (mem_of_mem_sharpWords atStart word hw), wordForm, if_pos h]
      obtain ⟨hupper, hlower⟩ := length_of_isInitialism h hsharp
      split
      · exact hlower
      · exact hupper
  · rw [if_neg fun hw => h (isInitialism_of_mem_sharpWords atStart word hw), wordForm, if_neg h]
    split
    · exact length_capitalized word
    · rfl

end Word

end GoStyle
