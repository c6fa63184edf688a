import GoStyle.Proofs.Initialisms
import GoStyle.Proofs.Words

/-!
# Names without room

When a name has no mixed form. Of the words of a name only `sharpWords` have forms longer than
themselves, by one character. That character is written over the first of what follows
(`leftAfter`), which may change where the next word ends, and is a fault if nothing follows
(`Overruns`). These names and no others have no mixed form (`mixedCaps_fault_iff`); they all end,
underscores apart, with a word that has a `ß` in it (`Overruns.exists_sharp_end`).
-/

namespace GoStyle

/-! ## One word -/

/-- The character that the form of a word in `sharpWords` has more. -/
def spill (word : List Char) : Char :=
  if word.head? = some 'ß' then 'H' else 'S'

/-- What is left of a name after a word has got its form. -/
def leftAfter (atStart : Bool) (word rest : List Char) : List Char :=
  match afterWord word rest with
  | [] => []
  | c :: s => (if word ∈ sharpWords atStart then spill word else c) :: s

theorem drop_wordForm : ∀ b, ∀ w ∈ sharpWords b, (wordForm b w).drop w.length = [spill w] := by
  decide

/-- The form of a word of the usual kind takes its place. -/
theorem finishWord_of_not_mem {atStart : Bool} {word : List Char} (h : word ∉ sharpWords atStart)
    (rest : List Char) : finishWord atStart word rest = .ok (wordForm atStart word, rest) := by
  have hlen := length_wordForm atStart word
  rw [if_neg h, Nat.add_zero] at hlen
  rw [finishWord, if_neg (by omega), writeOver, hlen, List.drop_left, List.splitAt_eq,
    List.take_left' hlen, List.drop_left' hlen]

/-- The form of a longer kind has room if anything follows. -/
theorem finishWord_cons {atStart : Bool} {word : List Char} (h : word ∈ sharpWords atStart)
    (c : Char) (rest : List Char) : finishWord atStart word (c :: rest) =
      .ok ((wordForm atStart word).take word.length, spill word :: rest) := by
  have hlen := length_wordForm atStart word
  rw [if_pos h] at hlen
  have hover : (word ++ c :: rest).drop (wordForm atStart word).length = rest := by
    rw [hlen, List.drop_append, List.drop_eq_nil_of_le (by omega)]
    simp
  have hroom : ¬word.length + (c :: rest).length < (wordForm atStart word).length := by
    rw [List.length_cons]
    omega
  rw [finishWord, if_neg hroom, writeOver, hover, List.splitAt_eq,
    List.take_append_of_le_length (by omega), List.drop_append_of_le_length (by omega),
    drop_wordForm atStart word h]
  rfl

/-- The form of a longer kind has no room at the end of a name. -/
theorem finishWord_nil {atStart : Bool} {word : List Char} (h : word ∈ sharpWords atStart) :
    finishWord atStart word [] = .error (.initialismOverrun (String.ofList word)) := by
  have hlen := length_wordForm atStart word
  rw [if_pos h] at hlen
  rw [finishWord, if_pos (by rw [List.length_nil]; omega)]

/-! ## Names -/

/-- Whether a name, read from the beginning of a word, ends with a word whose form is longer. -/
inductive Overruns : Bool → List Char → Prop
  | last {atStart word rest} : IsWord word rest → word ∈ sharpWords atStart →
    afterWord word rest = [] → Overruns atStart (word ++ rest)
  | next {atStart word rest} : IsWord word rest →
    Overruns false (leftAfter atStart word rest) → Overruns atStart (word ++ rest)

theorem Overruns.ne_nil {atStart : Bool} {s : List Char} (h : Overruns atStart s) : s ≠ [] := by
  cases h with
  | last hword => simp [hword.ne_nil]
  | next hword => simp [hword.ne_nil]

/-- Whether a name overruns is decided by its first word and by what is left after it. -/
theorem overruns_append_iff {atStart : Bool} {word rest : List Char} (h : IsWord word rest) :
    Overruns atStart (word ++ rest) ↔ (word ∈ sharpWords atStart ∧ afterWord word rest = []) ∨
      Overruns false (leftAfter atStart word rest) := by
  constructor
  · intro hover
    generalize hs : word ++ rest = s at hover
    cases hover with
    | last hword hsharp hnil =>
      obtain ⟨rfl, rfl⟩ := h.unique hword hs
      exact Or.inl ⟨hsharp, hnil⟩
    | next hword hover =>
      obtain ⟨rfl, rfl⟩ := h.unique hword hs
      exact Or.inr hover
  · rintro (⟨hsharp, hnil⟩ | hover)
    · exact .last h hsharp hnil
    · exact .next h hover

/-- A word either has no room or gets its form and leaves `leftAfter`. -/
theorem finishWord_cases {atStart : Bool} {word rest : List Char} :
    ((word ∈ sharpWords atStart ∧ afterWord word rest = []) ∧
      ∃ e, finishWord atStart word (afterWord word rest) = .error e) ∨
    (¬(word ∈ sharpWords atStart ∧ afterWord word rest = []) ∧
      ∃ out, finishWord atStart word (afterWord word rest) =
        .ok (out, leftAfter atStart word rest)) := by
  unfold leftAfter
  by_cases hsharp : word ∈ sharpWords atStart
  · cases hafter : afterWord word rest with
    | nil => exact Or.inl ⟨⟨hsharp, rfl⟩, _, finishWord_nil hsharp⟩
    | cons c s =>
      refine Or.inr ⟨by simp, (wordForm atStart word).take word.length, ?_⟩
      rw [finishWord_cons hsharp]
      simp only [if_pos hsharp]
  · refine Or.inr ⟨fun h => hsharp h.1, wordForm atStart word, ?_⟩
    rw [finishWord_of_not_mem hsharp]
    cases afterWord word rest <;> simp [hsharp]

theorem length_leftAfter_le (atStart : Bool) (word rest : List Char) :
    (leftAfter atStart word rest).length ≤ rest.length := by
  have hafter : (afterWord word rest).length ≤ rest.length := by
    unfold afterWord
    split
    · exact Nat.le_refl _
    · exact length_afterUnderscores_le _ rest
  unfold leftAfter
  split
  · exact Nat.zero_le _
  · rename_i c s hcons
    rwa [hcons] at hafter

/-! ## Faults -/

/-- Reading a name from the beginning of a word runs into a fault exactly if it overruns. -/
theorem mixedFrom_fault_iff (atStart : Bool) (s : List Char) :
    (∃ e, mixedFrom atStart [] s = .error e) ↔ Overruns atStart s := by
  induction hn : s.length using Nat.strong_induction_on generalizing atStart s with
  | _ n ih =>
    by_cases hs : s = []
    · subst hs
      rw [mixedFrom]
      exact iff_of_false (by simp) fun h => h.ne_nil rfl
    · obtain ⟨word, rest, hword, rfl⟩ := exists_isWord hs
      rw [mixedFrom_append atStart hword, overruns_append_iff hword, List.reverse_nil,
        List.nil_append]
      rcases finishWord_cases with ⟨hover, e, he⟩ | ⟨hroom, out, hout⟩
      · rw [he]
        exact iff_of_true ⟨e, rfl⟩ (Or.inl hover)
      · have hlt : (leftAfter atStart word rest).length < n := by
          have hle := length_leftAfter_le atStart word rest
          have hpos := List.length_pos_of_ne_nil hword.ne_nil
          rw [← hn, List.length_append]
          omega
        rw [hout, or_iff_right hroom, ← ih _ hlt false _ rfl]
        simp only [Except.bind]
        cases mixedFrom false [] (leftAfter atStart word rest) <;> simp [Except.map]

theorem exists_afterWord (word rest : List Char) :
    ∃ n, rest = List.replicate n '_' ++ afterWord word rest := by
  unfold afterWord
  split
  · exact ⟨0, rfl⟩
  · exact exists_afterUnderscores _ rest

theorem sharpWords_subset : ∀ b, ∀ w ∈ sharpWords b, w ∈ sharpWords false := by
  decide

/-- No word of a longer kind begins with a character that another left. -/
theorem sharpWords_head : ∀ w ∈ sharpWords false,
    w ≠ [] ∧ w.head? ≠ some 'S' ∧ w.head? ≠ some 'H' := by
  decide

/-- What is left after a word differs from what follows it in the first character at most. -/
theorem leftAfter_eq_cons {atStart : Bool} {word rest : List Char} {c : Char} {s : List Char}
    (h : leftAfter atStart word rest = c :: s) :
    ∃ d, afterWord word rest = d :: s ∧ (c = d ∨ c = 'S' ∨ c = 'H') := by
  unfold leftAfter at h
  split at h
  · cases h
  · rename_i d t hafter
    obtain ⟨hc, rfl⟩ := List.cons_eq_cons.mp h
    refine ⟨d, hafter, ?_⟩
    unfold spill at hc
    split_ifs at hc
    · exact Or.inr (Or.inr hc.symm)
    · exact Or.inr (Or.inl hc.symm)
    · exact Or.inl hc.symm

/-- A name that overruns ends with a word that has a `ß` in it. -/
theorem Overruns.exists_sharp_end {atStart : Bool} {s : List Char} (h : Overruns atStart s) :
    ∃ before word n, s = before ++ (word ++ List.replicate n '_') ∧ word ∈ sharpWords false := by
  induction h with
  | @last b word rest hword hsharp hnil =>
    obtain ⟨n, hn⟩ := exists_afterWord word rest
    rw [hnil, List.append_nil] at hn
    exact ⟨[], word, n, by rw [List.nil_append, ← hn], sharpWords_subset b word hsharp⟩
  | @next b word rest hword hover ih =>
    obtain ⟨before, w, n, hleft, hw⟩ := ih
    obtain ⟨m, hm⟩ := exists_afterWord word rest
    cases before with
    | nil =>
      obtain ⟨hne, hS, hH⟩ := sharpWords_head w hw
      obtain ⟨c, t, rfl⟩ := List.exists_cons_of_ne_nil hne
      obtain ⟨d, hafter, rfl | rfl | rfl⟩ := leftAfter_eq_cons hleft
      · refine ⟨word ++ List.replicate m '_', c :: t, n, ?_, hw⟩
        rw [hm, hafter, List.append_assoc]
        rfl
      · exact absurd rfl hS
      · exact absurd rfl hH
    | cons c before =>
      obtain ⟨d, hafter, -⟩ := leftAfter_eq_cons hleft
      exact ⟨word ++ (List.replicate m '_' ++ d :: before), w, n,
        by rw [hm, hafter]; simp, hw⟩

/-- A name that overruns has a `ß` in it. -/
theorem Overruns.sharp_mem {atStart : Bool} {s : List Char} (h : Overruns atStart s) : 'ß' ∈ s := by
  obtain ⟨before, word, n, rfl, hword⟩ := h.exists_sharp_end
  have hmem : 'ß' ∈ word := mem_of_mem_sharpWords false word hword
  exact List.mem_append_right before (List.mem_append_left _ hmem)

/-- A name of lower-case characters is one word. -/
theorem IsWord.eq_nil_of_lower {word rest : List Char} (h : IsWord word rest)
    (hlower : ∀ c ∈ word ++ rest, isLower c) : rest = [] := by
  induction h with
  | @last c rest hend =>
    cases rest with
    | nil => rfl
    | cons d rest =>
      have hc : isLower c := hlower c (by simp)
      have hd : isLower d := hlower d (by simp)
      have hne : d ≠ '_' := by
        rintro rfl
        revert hd
        decide
      simp [wordEnds, hc, hd, hne] at hend
  | cons _ _ ih => exact ih fun c hc => hlower c (List.mem_cons_of_mem _ hc)

/-- A name of lower-case characters does not overrun. -/
theorem Overruns.exists_not_lower {s : List Char} (h : Overruns true s) :
    ∃ c ∈ s, isLower c = false := by
  by_contra! hlower
  obtain ⟨word, rest, hword, rfl⟩ := exists_isWord h.ne_nil
  obtain rfl := hword.eq_nil_of_lower (by simpa using hlower)
  rcases (overruns_append_iff hword).mp h with ⟨hsharp, -⟩ | hover
  · have hcapital : ∀ w ∈ sharpWords true, w.all isLower = false := by decide
    have hall : word.all isLower := by
      simpa using hlower
    rw [hcapital word hsharp] at hall
    cases hall
  · refine hover.ne_nil ?_
    have hafter : afterWord word [] = [] := by
      unfold afterWord
      split <;> rfl
    rw [leftAfter, hafter]

/-- A name has no mixed form exactly if it overruns. -/
theorem mixedCaps_fault_iff (name : List Char) :
    (∃ e, mixedCaps name = .error e) ↔ Overruns true name := by
  unfold mixedCaps
  split
  · rename_i hplain
    refine iff_of_false (by simp) fun hover => ?_
    rcases hplain with rfl | hlower
    · exact absurd hover.sharp_mem (by decide)
    · obtain ⟨c, hc, hnot⟩ := hover.exists_not_lower
      rw [List.all_eq_true.mp hlower c hc] at hnot
      cases hnot
  · exact mixedFrom_fault_iff true name

end GoStyle
