import Mathlib.Data.List.Basic
import GoStyle.Text.LetterCase

/-!
# Upper-case forms in ASCII

Which characters have an upper-case form of ASCII characters only: those of ASCII, and ten others,
the `asciiPretenders` (`isAscii_or_mem_of_upperOf`). This is the one place that looks through the
tables of upper case. A form of ASCII characters has one character, unless it belongs to `ß` or to a
ligature (`length_upperOf`), and the forms of ASCII characters in lower case have one as well.
-/

namespace GoStyle

/-- The characters beyond ASCII whose upper-case form has ASCII characters only. -/
def asciiPretenders : List Char :=
  ['ß', 'ı', 'ſ', 'ﬀ', 'ﬁ', 'ﬂ', 'ﬃ', 'ﬄ', 'ﬅ', 'ﬆ']

/-- The pretenders that are ligatures. -/
def ligatures : List Char :=
  ['ﬀ', 'ﬁ', 'ﬂ', 'ﬃ', 'ﬄ', 'ﬅ', 'ﬆ']

/-! ## Tables -/

/-- A property of the items of a list can be tried out. -/
theorem forall_mem_of_all {α : Type} {P : α → Prop} [DecidablePred P] {as : List α}
    (h : as.all (fun a => decide (P a))) : ∀ a ∈ as, P a := by
  simpa using h

/-- Whether all images of a shift are characters beyond ASCII. -/
def CharShift.isForeign (s : CharShift) : Bool :=
  decide (128 ≤ s.run.lo + s.delta ∧ (s.run.hi + s.delta < 0xD800 ∨
    0xDFFF < s.run.lo + s.delta ∧ s.run.hi + s.delta < 0x110000))

theorem upperShifts_cases : ∀ s ∈ upperShifts, s.run.hi < 128 ∨
    (s.run.lo = s.run.hi ∧ Char.ofNat s.run.lo ∈ asciiPretenders) ∨ s.isForeign = true := by
  decide +kernel

theorem upperExpansions_cases : ∀ e ∈ upperExpansions,
    (e.2.map Char.ofNat).all isAscii → Char.ofNat e.1 ∈ asciiPretenders := by
  decide

theorem isAscii_iff (c : Char) : isAscii c ↔ c.toNat < 128 := by
  simp [isAscii]

theorem CharRun.le_of_has {r : CharRun} {n : ℕ} (h : r.has n) : r.lo ≤ n ∧ n ≤ r.hi := by
  simp only [CharRun.has, Bool.and_eq_true, decide_eq_true_iff] at h
  exact h.1

/-- What a shift beyond ASCII makes of a character of its run. -/
theorem CharShift.isAscii_eq_false {s : CharShift} (hs : s.isForeign = true) {n : ℕ}
    (h : s.run.has n) : isAscii (Char.ofNat ((n : Int) + s.delta).toNat) = false := by
  obtain ⟨hlo, hhi⟩ := CharRun.le_of_has h
  simp only [CharShift.isForeign, decide_eq_true_iff] at hs
  have hvalid : ((n : Int) + s.delta).toNat.isValidChar := by
    unfold Nat.isValidChar
    omega
  have hcode : (Char.ofNat ((n : Int) + s.delta).toNat).toNat = ((n : Int) + s.delta).toNat := by
    rw [Char.ofNat, dif_pos hvalid]
    rfl
  rw [← Bool.not_eq_true, isAscii_iff, hcode]
  omega

/-- Only ten characters beyond ASCII have an upper-case form of ASCII characters. -/
theorem isAscii_or_mem_of_upperOf {c : Char} (h : ∀ d ∈ upperOf c, isAscii d) :
    isAscii c ∨ c ∈ asciiPretenders := by
  by_cases hc : isAscii c
  · exact Or.inl hc
  right
  rw [upperOf, if_neg hc, caseImage] at h
  cases he : upperExpansions.find? (·.1 == c.toNat) with
  | some e =>
    rw [he] at h
    have hcode : e.1 = c.toNat := by simpa using List.find?_some he
    have := upperExpansions_cases e (List.mem_of_find?_eq_some he) (List.all_eq_true.mpr h)
    rwa [hcode, Char.ofNat_toNat] at this
  | none =>
    rw [he] at h
    simp only [List.mem_singleton, forall_eq, shiftOf?] at h
    cases hs : upperShifts.find? (·.run.has c.toNat) with
    | none =>
      rw [hs] at h
      exact absurd h hc
    | some s =>
      rw [hs] at h
      have hrun : s.run.has c.toNat := by simpa using List.find?_some hs
      obtain ⟨hlo, hhi⟩ := CharRun.le_of_has hrun
      rcases upperShifts_cases s (List.mem_of_find?_eq_some hs) with hlow | ⟨hone, hmem⟩ | hforeign
      · exact absurd ((isAscii_iff c).mpr (by omega)) hc
      · have hcode : s.run.lo = c.toNat := by omega
        rwa [hcode, Char.ofNat_toNat] at hmem
      · have := CharShift.isAscii_eq_false hforeign hrun
        simp only [Option.map_some, Option.getD_some] at h
        rw [this] at h
        cases h

/-! ## Numbers of characters -/

/-- A property of all ASCII characters can be tried out. -/
theorem forall_ascii {P : Char → Prop} (h : ∀ n < 128, P (Char.ofNat n)) {c : Char}
    (hc : isAscii c) : P c := by
  have := h c.toNat ((isAscii_iff c).mp hc)
  rwa [Char.ofNat_toNat] at this

/-- Every character has an upper-case form. -/
theorem upperOf_ne_nil (c : Char) : upperOf c ≠ [] := by
  have htable : ∀ e ∈ upperExpansions, e.2.map Char.ofNat ≠ [] := by decide
  unfold upperOf caseImage
  split
  · simp
  · cases he : upperExpansions.find? (·.1 == c.toNat) with
    | some e => exact htable e (List.mem_of_find?_eq_some he)
    | none => simp

theorem length_upperOf_of_isAscii {c : Char} (h : isAscii c) : (upperOf c).length = 1 := by
  rw [upperOf, if_pos h, List.length_singleton]

/-- An upper-case form in ASCII is one character, apart from that of `ß` and those of ligatures. -/
theorem length_upperOf {c : Char} (h : ∀ d ∈ upperOf c, isAscii d) :
    c = 'ß' ∨ c ∈ ligatures ∨ (upperOf c).length = 1 := by
  rcases isAscii_or_mem_of_upperOf h with hc | hc
  · exact Or.inr (Or.inr (length_upperOf_of_isAscii hc))
  · have htried : ∀ c ∈ asciiPretenders, c = 'ß' ∨ c ∈ ligatures ∨ (upperOf c).length = 1 :=
      forall_mem_of_all (by decide)
    exact htried c hc

/-- A character with an upper-case form in ASCII is one character in lower case. -/
theorem length_lowerOf {c : Char} (h : ∀ d ∈ upperOf c, isAscii d) : (lowerOf c).length = 1 := by
  rcases isAscii_or_mem_of_upperOf h with hc | hc
  · rw [lowerOf, if_pos hc, List.length_singleton]
  · have htried : ∀ c ∈ asciiPretenders, (lowerOf c).length = 1 :=
      forall_mem_of_all (by decide)
    exact htried c hc

/-! ## Words -/

theorem toUpper_append (s t : List Char) : toUpper (s ++ t) = toUpper s ++ toUpper t :=
  List.flatMap_append

theorem toUpper_cons (c : Char) (s : List Char) : toUpper (c :: s) = upperOf c ++ toUpper s :=
  List.flatMap_cons

/-- Only the empty word is empty in upper case. -/
theorem toUpper_eq_nil_iff (s : List Char) : toUpper s = [] ↔ s = [] := by
  cases s with
  | nil => simp [toUpper]
  | cons c s => simp [toUpper_cons, upperOf_ne_nil]

/-- Only a word of one character is one character in upper case. -/
theorem toUpper_eq_singleton {s : List Char} {d : Char} (h : toUpper s = [d]) :
    ∃ c, s = [c] ∧ upperOf c = [d] := by
  cases s with
  | nil => simp [toUpper] at h
  | cons c s =>
    rw [toUpper_cons, List.append_eq_singleton_iff] at h
    rcases h with ⟨hnil, -⟩ | ⟨hc, hs⟩
    · exact absurd hnil (upperOf_ne_nil c)
    · exact ⟨c, by rw [(toUpper_eq_nil_iff s).mp hs], hc⟩

theorem length_toUpper : ∀ {s : List Char}, (∀ c ∈ s, (upperOf c).length = 1) →
    (toUpper s).length = s.length
  | [], _ => rfl
  | c :: s, h => by
    rw [toUpper_cons, List.length_append, h c List.mem_cons_self,
      length_toUpper fun d hd => h d (List.mem_cons_of_mem c hd), List.length_cons, Nat.add_comm]

theorem length_toLowerAfter : ∀ (before : List Char) {s : List Char},
    (∀ c ∈ s, (lowerOf c).length = 1) → (toLowerAfter before s).length = s.length
  | _, [], _ => rfl
  | before, c :: s, h => by
    rw [toLowerAfter, List.length_append,
      length_toLowerAfter (c :: before) fun d hd => h d (List.mem_cons_of_mem c hd)]
    split
    · simp [Nat.add_comm]
    · rw [h c List.mem_cons_self, List.length_cons, Nat.add_comm]

end GoStyle
