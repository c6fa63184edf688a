import Mathlib.Data.List.TakeWhile
import GoStyle.Lint.MixedCaps

/-!
# Words of a name

A name is read word by word. `IsWord word rest` says that a word ends between `word` and `rest` and
nowhere before, which leaves no choice (`IsWord.unique`) and holds of some beginning of every name
(`exists_isWord`). With it the reading of a name is a recursion on its words (`mixedFrom_append`): a
word gets its form, and reading goes on behind the underscores that follow, with what the form has
left of what is there.
-/

namespace GoStyle

/-- `word` is what is read as a word in front of `rest`. -/
inductive IsWord : List Char → List Char → Prop
  | last {c rest} : wordEnds c rest → IsWord [c] rest
  | cons {c word rest} : wordEnds c (word ++ rest) = false → IsWord word rest →
    IsWord (c :: word) rest

/-- What follows a word after underscores have been taken away. -/
def afterWord (word rest : List Char) : List Char :=
  match word.getLast? with
  | none => rest
  | some last => afterUnderscores last rest

/-! ## Words -/

theorem IsWord.ne_nil {word rest : List Char} (h : IsWord word rest) : word ≠ [] := by
  cases h <;> simp

/-- A name begins with one word only. -/
theorem IsWord.unique {word word' rest rest' : List Char} (h : IsWord word rest)
    (h' : IsWord word' rest') (heq : word ++ rest = word' ++ rest') :
    word = word' ∧ rest = rest' := by
  induction h generalizing word' rest' with
  | last hend =>
    cases h' with
    | last => simpa using heq
    | cons hgoes =>
      simp only [List.cons_append, List.nil_append, List.cons.injEq] at heq
      rw [← heq.1, ← heq.2, hend] at hgoes
      cases hgoes
  | cons hgoes _ ih =>
    cases h' with
    | last hend =>
      simp only [List.cons_append, List.nil_append, List.cons.injEq] at heq
      rw [heq.1, heq.2, hend] at hgoes
      cases hgoes
    | cons _ h' =>
      simp only [List.cons_append, List.cons.injEq] at heq
      obtain ⟨rfl, rfl⟩ := ih h' heq.2
      exact ⟨by rw [heq.1], rfl⟩

/-- Every name but the empty one begins with a word. -/
theorem exists_isWord : ∀ {s : List Char}, s ≠ [] → ∃ word rest, IsWord word rest ∧ s = word ++ rest
  | [], h => absurd rfl h
  | c :: s, _ => by
    by_cases hend : wordEnds c s
    · exact ⟨[c], s, .last hend, rfl⟩
    · have hs : s ≠ [] := by
        rintro rfl
        exact hend rfl
      obtain ⟨word, rest, hword, rfl⟩ := exists_isWord hs
      exact ⟨c :: word, rest, .cons (by simpa using hend) hword, rfl⟩

/-! ## Underscores -/

theorem exists_dropWhile_underscore (s : List Char) :
    ∃ n, s = List.replicate n '_' ++ s.dropWhile (· == '_') := by
  refine ⟨(s.takeWhile (· == '_')).length, ?_⟩
  have hall : s.takeWhile (· == '_') = List.replicate (s.takeWhile (· == '_')).length '_' :=
    List.eq_replicate_iff.mpr ⟨rfl, fun c hc => by simpa using List.mem_takeWhile_imp hc⟩
  rw [← hall, List.takeWhile_append_dropWhile]

/-- Only underscores are taken away behind a word. -/
theorem exists_afterUnderscores (last : Char) (rest : List Char) :
    ∃ n, rest = List.replicate n '_' ++ afterUnderscores last rest := by
  unfold afterUnderscores
  split
  · rename_i s
    obtain ⟨n, hn⟩ := exists_dropWhile_underscore s
    have hdrop : ('_' :: s).dropWhile (· == '_') = s.dropWhile (· == '_') := by simp
    rw [hdrop]
    split
    · rename_i hnil
      refine ⟨n + 1, ?_⟩
      rw [List.replicate_succ, List.cons_append, ← hnil, ← hn]
    · rename_i c t hcons
      rw [hcons] at hn
      split
      · refine ⟨n, ?_⟩
        rw [List.append_cons, ← List.replicate_succ', List.replicate_succ, List.cons_append, ← hn]
      · refine ⟨n + 1, ?_⟩
        rw [List.replicate_succ, List.cons_append, ← hn]
  · exact ⟨0, rfl⟩

/-! ## Reading on -/

/-- Behind a word reading begins anew. -/
theorem mixedFrom_append (atStart : Bool) {word rest : List Char} (h : IsWord word rest) :
    ∀ read, mixedFrom atStart read (word ++ rest) =
      (finishWord atStart (read.reverse ++ word) (afterWord word rest)).bind fun (out, rest) =>
        (mixedFrom false [] rest).map (out ++ ·) := by
  induction h with
  | @last c rest hend =>
    intro read
    rw [List.singleton_append, mixedFrom, if_pos hend, afterWord, ← List.reverse_cons]
    simp only [List.getLast?_singleton]
    split
    · rename_i e hfinish
      rw [hfinish]
      rfl
    · rename_i out rest' hfinish
      rw [hfinish]
      simp only [Except.bind]
      cases mixedFrom false [] rest' <;> rfl
  | @cons c word rest hgoes h ih =>
    intro read
    have hlast : afterWord (c :: word) rest = afterWord word rest := by
      unfold afterWord
      rw [List.getLast?_cons_of_ne_nil h.ne_nil]
    rw [List.cons_append, mixedFrom, if_neg (by simp [hgoes]), ih, hlast, List.reverse_cons,
      List.append_assoc, List.singleton_append]

end GoStyle
