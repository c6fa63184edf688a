import Mathlib.Data.List.SplitBy
import GoStyle.Proofs.AsciiWords

/-!
# Reading a mixed form again

The mixed form of a name in ASCII is a name again, and its words are the forms of the first reading,
with those put together between which there is no break any more (`Formed.hasWords_merged`). For
words with breaks between them and nothing to be taken away are the words of what they make up
(`hasWords_flatten`).
-/

namespace GoStyle

/-! ## Names with nothing to take away -/

/-- Whether an underscore in front of the second word stands between two digits. -/
def Keeps (word next : List Char) : Prop :=
  next.head? = some '_' → (∃ c ∈ word.getLast?, isAsciiDigit c) ∧
    ∃ d ∈ next.tail.head?, isAsciiDigit d

/-- An underscore that is left stands between two digits. -/
theorem of_afterUnderscores_eq {last : Char} {rest s : List Char}
    (h : afterUnderscores last rest = '_' :: s) :
    isAsciiDigit last ∧ ∃ d ∈ s.head?, isAsciiDigit d := by
  unfold afterUnderscores at h
  split at h
  · rename_i tail
    split at h
    · cases h
    · rename_i c t hdrop
      split_ifs at h with hdigits
      · obtain ⟨-, rfl⟩ := List.cons_eq_cons.mp h
        rw [Bool.and_eq_true] at hdigits
        exact ⟨hdigits.1, c, rfl, hdigits.2⟩
      · obtain ⟨rfl, -⟩ := List.cons_eq_cons.mp h
        have hhead := List.head?_dropWhile_not (· == '_') ('_' :: tail)
        rw [hdrop] at hhead
        simp at hhead
  · rename_i hne
    exact absurd h (hne s)

/-- An underscore between two digits is left. -/
theorem afterUnderscores_of_digits {last d : Char} (hlast : isAsciiDigit last)
    (hd : isAsciiDigit d) (s : List Char) :
    afterUnderscores last ('_' :: d :: s) = '_' :: d :: s := by
  have hne : d ≠ '_' := by
    rintro rfl
    exact absurd hd (by decide)
  have hdrop : ('_' :: d :: s).dropWhile (· == '_') = d :: s := by simp [hne]
  unfold afterUnderscores
  rw [hdrop]
  simp [hlast, hd]

theorem afterUnderscores_of_ne {last d : Char} (hne : d ≠ '_') (s : List Char) :
    afterUnderscores last (d :: s) = d :: s := by
  unfold afterUnderscores
  split
  · rename_i heq
    exact absurd (List.cons_eq_cons.mp heq).1 hne
  · rfl

/-- The words of a name keep underscores between digits only. -/
theorem HasWords.keeps {s : List Char} {words : List (List Char)} (h : HasWords s words) :
    words.IsChain Keeps := by
  induction h with
  | nil => exact .nil
  | @cons word rest words hword hrest ih =>
    cases hrest' : words with
    | nil => exact .singleton word
    | cons next more =>
      subst hrest'
      refine List.isChain_cons_cons.mpr ⟨fun hhead => ?_, ih⟩
      generalize hafter : afterWord word rest = s at hrest
      cases hrest with
      | @cons _ rest' _ hnext hmore =>
        obtain ⟨tail, rfl⟩ := List.head?_eq_some_iff.mp hhead
        unfold afterWord at hafter
        split at hafter
        · rename_i hnone
          exact absurd (List.getLast?_eq_none_iff.mp hnone) hword.ne_nil
        · rename_i last hlast
          obtain ⟨hdigit, d, hd, hdigit'⟩ := of_afterUnderscores_eq hafter
          refine ⟨⟨last, hlast, hdigit⟩, d, ?_, hdigit'⟩
          cases tail with
          | nil =>
            -- A word does not end between an underscore and a digit.
            obtain ⟨more, rfl⟩ := List.head?_eq_some_iff.mp hd
            have hend := (isWord_iff.mp hnext).2 '_' rfl
            have hne : d ≠ '_' := by
              rintro rfl
              exact absurd hdigit' (by decide)
            have hlower : isLower '_' = false := by decide
            simp [wordEnds, hne, hlower] at hend
          | cons e tail => exact hd

/-- Whether two words go on as one. -/
def joinsWord (word next : List Char) : Bool :=
  match word.getLast?, next.head? with
  | some c, some d => joins c d
  | _, _ => false

theorem joinsWord_eq_false_iff {word next : List Char} : joinsWord word next = false ↔
    ∀ c ∈ word.getLast?, ∀ d ∈ next.head?, joins c d = false := by
  unfold joinsWord
  cases word.getLast? <;> cases next.head? <;> simp

theorem joinsWord_iff {word next : List Char} : joinsWord word next ↔
    ∃ c ∈ word.getLast?, ∃ d ∈ next.head?, joins c d := by
  unfold joinsWord
  cases word.getLast? <;> cases next.head? <;> simp

/-- Words with breaks between them and no underscores to take away are the words of what they make
up. -/
theorem hasWords_flatten : ∀ {words : List (List Char)}, (∀ word ∈ words, Unbroken word) →
    words.IsChain (fun word next => joinsWord word next = false ∧ Keeps word next) →
    HasWords words.flatten words
  | [], _, _ => .nil
  | word :: words, h, hchain => by
    obtain ⟨hword, hwords⟩ := List.forall_mem_cons.mp h
    have hrest := hasWords_flatten hwords hchain.tail
    obtain ⟨last, hlast⟩ := Option.ne_none_iff_exists'.mp
      (mt List.getLast?_eq_none_iff.mp hword.1)
    rw [List.flatten_cons]
    cases words with
    | nil =>
      have hend : IsWord word [] := isWord_iff.mpr ⟨hword, fun _ _ => rfl⟩
      have hafter : afterWord word [] = [] := by rw [afterWord, hlast]; rfl
      exact .cons hend (hafter.symm ▸ .nil)
    | cons next words =>
      obtain ⟨⟨hbreak, hkeeps⟩, -⟩ := List.isChain_cons_cons.mp hchain
      obtain ⟨d, tail, rfl⟩ := List.exists_cons_of_ne_nil (hwords next List.mem_cons_self).1
      rw [joinsWord_eq_false_iff] at hbreak
      have hend : IsWord word (((d :: tail) :: words).flatten) := by
        refine isWord_iff.mpr ⟨hword, fun c hc => ?_⟩
        have hjoins := hbreak c hc d rfl
        rwa [joins, Bool.not_eq_false'] at hjoins
      have hafter : afterWord word (((d :: tail) :: words).flatten) =
          ((d :: tail) :: words).flatten := by
        rw [afterWord, hlast]
        rw [List.flatten_cons, List.cons_append]
        by_cases hd : d = '_'
        · subst hd
          obtain ⟨⟨c, hc, hdigit⟩, e, he, hdigit'⟩ := hkeeps rfl
          obtain rfl := Option.mem_unique hc hlast
          obtain ⟨more, rfl⟩ := List.head?_eq_some_iff.mp he
          exact afterUnderscores_of_digits hdigit hdigit' _
        · exact afterUnderscores_of_ne hd _
      exact .cons hend (hafter.symm ▸ hrest)

/-! ## Forms as words -/

/-- What the forms of the words of a name are: unbroken words in ASCII, with underscores kept between
digits only, and none but the first beginning in lower case. -/
structure Formed (forms : List (List Char)) : Prop where
  unbroken : ∀ f ∈ forms, Unbroken f
  ascii : ∀ f ∈ forms, ∀ c ∈ f, isAscii c
  follows : forms.IsChain fun f g => Keeps f g ∧ startsLower g = false

theorem exists_of_map_asciiLower_eq {o o' : Option Char}
    (h : o.map asciiLower = o'.map asciiLower) :
    ∀ c ∈ o, ∃ d ∈ o', asciiLower d = asciiLower c := by
  rintro c rfl
  obtain ⟨d, hd, hlower⟩ := Option.map_eq_some_iff.mp h.symm
  exact ⟨d, hd, hlower⟩

/-- Underscores between digits stand there in whatever case the words are. -/
theorem Keeps.congr {word next word' next' : List Char} (h : Keeps word next)
    (hascii : ∀ c ∈ word ++ next, isAscii c) (hascii' : ∀ c ∈ word' ++ next', isAscii c)
    (hword : word'.map asciiLower = word.map asciiLower)
    (hnext : next'.map asciiLower = next.map asciiLower) : Keeps word' next' := by
  rw [List.forall_mem_append] at hascii hascii'
  have hlast := congrArg List.getLast? hword
  have hhead := congrArg List.head? hnext
  have hsecond := congrArg (fun s => s.tail.head?) hnext
  simp only [List.getLast?_map, List.head?_map, ← List.map_tail] at hlast hhead hsecond
  have hdigit : ∀ {c d : Char}, isAscii c → isAscii d → asciiLower d = asciiLower c →
      isAsciiDigit c → isAsciiDigit d := by
    intro c d hc hd hlower h
    rwa [← isAsciiDigit_asciiLower hd, hlower, isAsciiDigit_asciiLower hc]
  intro hunderscore
  obtain ⟨c, hc, hlower⟩ := exists_of_map_asciiLower_eq hhead '_' hunderscore
  obtain rfl := (asciiLower_eq_underscore_iff (hascii.2 c (List.mem_of_mem_head? hc))).mp hlower
  obtain ⟨⟨c, hc, hcdigit⟩, d, hd, hddigit⟩ := h hc
  obtain ⟨c', hc', hclower⟩ := exists_of_map_asciiLower_eq hlast.symm c hc
  obtain ⟨d', hd', hdlower⟩ := exists_of_map_asciiLower_eq hsecond.symm d hd
  have hcascii := hascii.1 c (List.mem_of_getLast? hc)
  have hcascii' := hascii'.1 c' (List.mem_of_getLast? hc')
  have hdascii := hascii.2 d (List.mem_of_mem_tail (List.mem_of_mem_head? hd))
  have hdascii' := hascii'.2 d' (List.mem_of_mem_tail (List.mem_of_mem_head? hd'))
  exact ⟨⟨c', hc', hdigit hcascii hcascii' hclower hcdigit⟩, d', hd',
    hdigit hdascii hdascii' hdlower hddigit⟩

theorem exists_of_mem_formsOf {atStart : Bool} {words : List (List Char)} {f : List Char}
    (h : f ∈ formsOf atStart words) : ∃ word ∈ words, ∃ b, f = wordForm b word := by
  induction words generalizing atStart with
  | nil => cases h
  | cons word words ih =>
    rcases List.mem_cons.mp h with rfl | h
    · exact ⟨word, List.mem_cons_self, atStart, rfl⟩
    · obtain ⟨w, hw, hf⟩ := ih h
      exact ⟨w, List.mem_cons_of_mem word hw, hf⟩

/-- The forms of the words of a name. -/
theorem formed_formsOf {words : List (List Char)} (hunbroken : ∀ w ∈ words, Unbroken w)
    (hascii : ∀ w ∈ words, ∀ c ∈ w, isAscii c) (hkeeps : words.IsChain Keeps) (atStart : Bool) :
    Formed (formsOf atStart words) := by
  refine ⟨fun f hf => ?_, fun f hf => ?_, ?_⟩
  · obtain ⟨w, hw, b, rfl⟩ := exists_of_mem_formsOf hf
    exact unbroken_wordForm (hunbroken w hw) (hascii w hw) b
  · obtain ⟨w, hw, b, rfl⟩ := exists_of_mem_formsOf hf
    exact isAscii_wordForm (hunbroken w hw) (hascii w hw) b
  · induction words generalizing atStart with
    | nil => exact .nil
    | cons word words ih =>
      cases words with
      | nil => exact .singleton _
      | cons next words =>
        obtain ⟨hunbroken, hrest⟩ := List.forall_mem_cons.mp hunbroken
        obtain ⟨hascii, hascii'⟩ := List.forall_mem_cons.mp hascii
        obtain ⟨hkeep, hmore⟩ := List.isChain_cons_cons.mp hkeeps
        have hnext := hrest next List.mem_cons_self
        have hnext' := hascii' next List.mem_cons_self
        refine List.isChain_cons_cons.mpr ⟨⟨?_, startsLower_wordForm hnext hnext'⟩,
          ih hrest hascii' hmore false⟩
        refine hkeep.congr (List.forall_mem_append.mpr ⟨hascii, hnext'⟩)
          (List.forall_mem_append.mpr ⟨?_, ?_⟩) ?_ ?_
        · exact isAscii_wordForm hunbroken hascii atStart
        · exact isAscii_wordForm hnext hnext' false
        · exact map_asciiLower_wordForm hunbroken hascii atStart
        · exact map_asciiLower_wordForm hnext hnext' false

/-! ## Words put together -/

/-- Forms put together where they go on as one word. -/
def merged (forms : List (List Char)) : List (List Char) :=
  (forms.splitBy joinsWord).map List.flatten

theorem flatten_merged (forms : List (List Char)) : (merged forms).flatten = forms.flatten := by
  rw [merged, ← List.flatten_flatten, List.flatten_splitBy]

theorem isChain_and {α : Type} {R S : α → α → Prop} : ∀ {l : List α}, l.IsChain R → l.IsChain S →
    l.IsChain fun a b => R a b ∧ S a b
  | [], _, _ => .nil
  | [a], _, _ => .singleton a
  | _ :: _ :: _, hR, hS => by
    obtain ⟨hab, hR⟩ := List.isChain_cons_cons.mp hR
    obtain ⟨hab', hS⟩ := List.isChain_cons_cons.mp hS
    exact List.isChain_cons_cons.mpr ⟨⟨hab, hab'⟩, isChain_and hR hS⟩

/-- Some forms begin like the first of them. -/
theorem head?_flatten_cons {f : List Char} (hf : f ≠ []) (group : List (List Char)) :
    (f :: group).flatten.head? = f.head? := by
  rw [List.flatten_cons, List.head?_append_of_ne_nil _ hf]

/-- Some forms end like the last of them. -/
theorem getLast?_flatten_concat {f : List Char} (hf : f ≠ []) (group : List (List Char)) :
    (group ++ [f]).flatten.getLast? = f.getLast? := by
  rw [List.flatten_concat, List.getLast?_append_of_ne_nil _ hf]

namespace Formed

variable {forms : List (List Char)}

theorem ne_nil (h : Formed forms) : [] ∉ forms :=
  fun hnil => (h.unbroken [] hnil).1 rfl

theorem mem_of_mem_group {group : List (List Char)} (hgroup : group ∈ forms.splitBy joinsWord)
    {f : List Char} (hf : f ∈ group) : f ∈ forms := by
  rw [← List.flatten_splitBy joinsWord forms]
  exact List.mem_flatten_of_mem hgroup hf

/-- A group of forms is an unbroken word. -/
theorem unbroken_flatten (h : Formed forms) {group : List (List Char)}
    (hgroup : group ∈ forms.splitBy joinsWord) : Unbroken group.flatten := by
  have hmem := fun f => mem_of_mem_group (f := f) hgroup
  have hne : [] ∉ group := fun hnil => h.ne_nil (hmem [] hnil)
  have hgne := List.ne_nil_of_mem_splitBy hgroup
  refine ⟨?_, ?_⟩
  · obtain ⟨f, group, rfl⟩ := List.exists_cons_of_ne_nil hgne
    intro hnil
    rw [List.flatten_cons, List.append_eq_nil_iff] at hnil
    exact hne (hnil.1 ▸ List.mem_cons_self)
  · rw [List.isChain_flatten hne]
    refine ⟨fun f hf => (h.unbroken f (hmem f hf)).2, ?_⟩
    refine (List.isChain_of_mem_splitBy hgroup).imp fun f g hfg c hc d hd => ?_
    obtain ⟨c', hc', d', hd', hjoins⟩ := joinsWord_iff.mp hfg
    rwa [Option.mem_unique hc hc', Option.mem_unique hd hd']

/-- Between groups of forms there are breaks, and nothing to take away. -/
theorem follows_merged (h : Formed forms) : (merged forms).IsChain fun f g =>
    (joinsWord f g = false ∧ Keeps f g) ∧ startsLower g = false := by
  have hadjacent := h.follows
  rw [← List.flatten_splitBy joinsWord forms,
    List.isChain_flatten (List.nil_notMem_splitBy joinsWord forms)] at hadjacent
  have hbreaks := List.isChain_getLast_head_splitBy joinsWord forms
  rw [merged, List.isChain_map]
  refine (isChain_and hbreaks hadjacent.2).imp_of_mem_imp ?_
  rintro a b ha hb ⟨⟨hane, hbne, hbreak⟩, hadjacent⟩
  obtain ⟨a, f, rfl⟩ := List.eq_nil_or_concat' a |>.resolve_left hane
  obtain ⟨g, b, rfl⟩ := List.exists_cons_of_ne_nil hbne
  rw [List.getLast_concat, List.head_cons, joinsWord_eq_false_iff] at hbreak
  obtain ⟨hkeeps, hstart⟩ := hadjacent f (by simp) g rfl
  have hf := (h.unbroken f (mem_of_mem_group ha (by simp))).1
  have hg := (h.unbroken g (mem_of_mem_group hb (by simp))).1
  have hlast := getLast?_flatten_concat hf a
  have hhead := head?_flatten_cons hg b
  obtain ⟨c, g, rfl⟩ := List.exists_cons_of_ne_nil hg
  refine ⟨⟨?_, fun hunderscore => ?_⟩, hstart⟩
  · rw [joinsWord_eq_false_iff, hlast, hhead]
    exact hbreak
  · rw [hhead] at hunderscore
    obtain ⟨hdigit, d, hd, hdigit'⟩ := hkeeps hunderscore
    obtain ⟨g, rfl⟩ := List.head?_eq_some_iff.mp hd
    exact ⟨hlast ▸ hdigit, d, rfl, hdigit'⟩

/-- Forms put together are the words of what they make up. -/
theorem hasWords_merged (h : Formed forms) : HasWords forms.flatten (merged forms) := by
  rw [← flatten_merged]
  refine hasWords_flatten ?_ (h.follows_merged.imp fun _ _ => And.left)
  rw [merged, List.forall_mem_map]
  exact fun group hgroup => h.unbroken_flatten hgroup

end Formed

end GoStyle
