import Mathlib.Data.List.TakeWhile
import GoStyle.Proofs.Points

/-!
# Where tokens stand

A token stands in its text where it says (`standsIn_of_mem_tokens?`), since lexemes leave nothing
out. Every lexeme has a text, so tokens come in the order of their offsets
(`pairwise_offset_tokens?`). The names among them hold no part of the end of a line
(`isPlain_of_kind_word`).
-/

namespace GoStyle

/-! ## Lexemes -/

/-- What holds of every lexeme of a text. -/
structure Lexeme.Sound (l : Lexeme) : Prop where
  ne_nil : l.text ≠ []
  isPlain : l.kind = .word → IsPlain l.text

/-- A word is what identifiers are made of. -/
theorem lexemeAt?_word {c : Char} {s : List Char} {n : ℕ} (h : lexemeAt? c s = some (.word, n)) :
    isIdentStart c ∧ s.take n = s.takeWhile isIdentPart := by
  unfold lexemeAt? at h
  split at h
  · cases h
  split at h
  · cases h
  split at h
  · rename_i hstart
    cases h
    exact ⟨hstart, (List.prefix_iff_eq_take.mp (List.takeWhile_prefix _)).symm⟩
  -- No lexeme of another kind is a word.
  · repeat' split at h
    all_goals simp at h

theorem sound_of_lexemeAt? {c : Char} {s : List Char} {kind : LexemeKind} {n : ℕ}
    (h : lexemeAt? c s = some (kind, n)) : Lexeme.Sound ⟨kind, c :: s.take n⟩ where
  ne_nil := List.cons_ne_nil _ _
  isPlain := by
    rintro rfl
    obtain ⟨hstart, htake⟩ := lexemeAt?_word h
    have hnot : ∀ d, isIdentStart d = false → isIdentPart d = false → d ∉ c :: s.take n := by
      intro d hd hd' hmem
      rcases List.mem_cons.mp hmem with rfl | hmem
      · rw [hstart] at hd
        cases hd
      · rw [htake] at hmem
        rw [List.mem_takeWhile_imp hmem] at hd'
        cases hd'
    exact ⟨List.cons_ne_nil _ _, hnot '\n' rfl rfl, hnot '\r' rfl rfl⟩

theorem sound_of_lexemesWithin? : ∀ {limit : ℕ} {s : List Char} {ls : List Lexeme},
    lexemesWithin? limit s = some ls → ∀ l ∈ ls, l.Sound
  | _, [], ls, h => by
    obtain rfl : ls = [] := by cases ‹ℕ› <;> simpa [lexemesWithin?] using h.symm
    simp
  | 0, _ :: _, _, h => by cases h
  | limit + 1, c :: s, ls, h => by
    rw [lexemesWithin?] at h
    split at h
    · cases h
    · rename_i kind n hat
      obtain ⟨ls', hls, rfl⟩ := Option.map_eq_some_iff.mp h
      intro l hl
      rcases List.mem_cons.mp hl with rfl | hl
      · exact sound_of_lexemeAt? hat
      · exact sound_of_lexemesWithin? hls l hl

theorem sound_of_lexemes? {s : List Char} {ls : List Lexeme} (h : lexemes? s = some ls) :
    ∀ l ∈ ls, l.Sound := by
  unfold lexemes? at h
  split at h
  · cases h
    simp
  · split at h
    · obtain ⟨ls', hls, rfl⟩ := Option.map_eq_some_iff.mp h
      intro l hl
      rcases List.mem_cons.mp hl with rfl | hl
      · exact ⟨List.cons_ne_nil _ _, by simp⟩
      · exact sound_of_lexemesWithin? hls l hl
    · exact sound_of_lexemesWithin? h

/-! ## Tokens -/

/-- Whether a token stands in a text where it says it does. -/
def Token.StandsIn (t : Token) (s : List Char) : Prop :=
  ∃ before after, s = before ++ t.text ++ after ∧ t.start = Point.zero.after before ∧
    t.stop = Point.zero.after (before ++ t.text)

/-- A token is a lexeme, with the places before and behind it. -/
theorem exists_lexeme_of_mem_tokensFrom {t : Token} : ∀ {ls : List Lexeme} {p : Point},
    t ∈ tokensFrom p ls → ∃ before l after, ls = before ++ l :: after ∧
      t = ⟨l.kind, l.text, p.after (before.flatMap Lexeme.text),
        p.after (before.flatMap Lexeme.text ++ l.text)⟩
  | l :: ls, p, h => by
    have hrest : t ∈ tokensFrom (p.after l.text) ls → ∃ before l' after,
        l :: ls = before ++ l' :: after ∧ t = ⟨l'.kind, l'.text,
          p.after (before.flatMap Lexeme.text),
          p.after (before.flatMap Lexeme.text ++ l'.text)⟩ := by
      intro h
      obtain ⟨before, l', after, rfl, ht⟩ := exists_lexeme_of_mem_tokensFrom h
      refine ⟨l :: before, l', after, rfl, ?_⟩
      rw [ht, List.flatMap_cons, List.append_assoc, after_append p, after_append p]
    rw [tokensFrom] at h
    split at h
    · exact hrest h
    · rcases List.mem_cons.mp h with rfl | h
      · exact ⟨[], l, ls, rfl, rfl⟩
      · exact hrest h

/-- The tokens of a text stand in it. -/
theorem standsIn_of_mem_tokens? {s : List Char} {ts : List Token} (h : tokens? s = some ts)
    {t : Token} (ht : t ∈ ts) : t.StandsIn s := by
  obtain ⟨ls, hls, rfl⟩ := Option.map_eq_some_iff.mp h
  obtain ⟨before, l, after, rfl, rfl⟩ := exists_lexeme_of_mem_tokensFrom ht
  refine ⟨before.flatMap Lexeme.text, after.flatMap Lexeme.text, ?_, rfl, rfl⟩
  rw [← text_of_lexemes? hls]
  simp

/-- Words are parts of lines. -/
theorem isPlain_of_kind_word {s : List Char} {ts : List Token} (h : tokens? s = some ts)
    {t : Token} (ht : t ∈ ts) (hword : t.kind = .word) : IsPlain t.text := by
  obtain ⟨ls, hls, rfl⟩ := Option.map_eq_some_iff.mp h
  obtain ⟨before, l, after, rfl, rfl⟩ := exists_lexeme_of_mem_tokensFrom ht
  exact (sound_of_lexemes? hls l (by simp)).isPlain hword

theorem offset_after (p : Point) (s : List Char) :
    (p.after s).offset = p.offset + (String.ofList s).utf8ByteSize := by
  induction s generalizing p with
  | nil => rfl
  | cons c s ih =>
    change ((p.step c).after s).offset = _
    rw [ih, utf8ByteSize_ofList_cons, Point.step]
    split
    · rename_i hc
      subst hc
      change p.offset + 1 + _ = p.offset + (1 + _)
      omega
    · dsimp only
      omega

/-- Tokens come in the order of their offsets. -/
theorem pairwise_offset_tokensFrom : ∀ {ls : List Lexeme} (p : Point),
    (∀ l ∈ ls, l.text ≠ []) →
      (tokensFrom p ls).Pairwise (fun t u => t.start.offset < u.start.offset) ∧
      ∀ t ∈ tokensFrom p ls, p.offset ≤ t.start.offset
  | [], _, _ => ⟨List.Pairwise.nil, by simp [tokensFrom]⟩
  | l :: ls, p, h => by
    obtain ⟨hl, hls⟩ := List.forall_mem_cons.mp h
    obtain ⟨hpairwise, hle⟩ := pairwise_offset_tokensFrom (p.after l.text) hls
    have hlt : p.offset < (p.after l.text).offset := by
      rw [offset_after]
      have := Nat.pos_of_ne_zero fun h => hl (ofList_eq_nil_of_utf8ByteSize h)
      omega
    rw [tokensFrom]
    split
    · exact ⟨hpairwise, fun t ht => hlt.le.trans (hle t ht)⟩
    · refine ⟨List.pairwise_cons.mpr ⟨fun t ht => hlt.trans_le (hle t ht), hpairwise⟩, ?_⟩
      intro t ht
      rcases List.mem_cons.mp ht with rfl | ht
      · exact le_refl _
      · exact hlt.le.trans (hle t ht)

theorem pairwise_offset_tokens? {s : List Char} {ts : List Token} (h : tokens? s = some ts) :
    ts.Pairwise fun t u => t.start.offset < u.start.offset := by
  obtain ⟨ls, hls, rfl⟩ := Option.map_eq_some_iff.mp h
  exact (pairwise_offset_tokensFrom Point.zero fun l hl => (sound_of_lexemes? hls l hl).ne_nil).1

end GoStyle
