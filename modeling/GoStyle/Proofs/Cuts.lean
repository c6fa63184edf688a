import Mathlib.Data.List.Basic
import GoStyle.Lint.Rules.Names
import GoStyle.Lint.Rules.Stutter

/-!
# Cuts

Texts are cut at a number of bytes, and never inside a character: a cut gives back the two parts of
the text, the first of so many bytes (`splitBytes?_eq_some_iff`). So a name is replaced in a line
where it stands and the rest of the line stays (`replaceAt?_eq_some_iff`), and a name that stutters
is the package's name, in some case, and a rest (`stutterRest?_eq_some_iff`).
-/

namespace GoStyle

theorem utf8ByteSize_ofList_cons (c : Char) (s : List Char) :
    (String.ofList (c :: s)).utf8ByteSize = c.utf8Size + (String.ofList s).utf8ByteSize := by
  rw [String.ofList_cons, String.utf8ByteSize_append, String.utf8ByteSize_singleton]

theorem ofList_eq_nil_of_utf8ByteSize {s : List Char} (h : (String.ofList s).utf8ByteSize = 0) :
    s = [] := by
  cases s with
  | nil => rfl
  | cons c s =>
    have := c.utf8Size_pos
    rw [utf8ByteSize_ofList_cons] at h
    omega

/-- A cut gives back the two parts of a text, the first of the given number of bytes. -/
theorem splitBytes?_eq_some_iff {n : ℕ} {s a b : List Char} :
    splitBytes? n s = some (a, b) ↔ s = a ++ b ∧ (String.ofList a).utf8ByteSize = n := by
  fun_induction splitBytes? n s generalizing a with
  | case1 s =>
    constructor
    · intro h
      obtain ⟨rfl, rfl⟩ : [] = a ∧ s = b := by simpa using h
      exact ⟨rfl, rfl⟩
    · rintro ⟨rfl, hsize⟩
      obtain rfl : a = [] := ofList_eq_nil_of_utf8ByteSize hsize
      rfl
  | case2 n =>
    refine iff_of_false (by simp) ?_
    rintro ⟨hnil, hsize⟩
    obtain ⟨rfl, rfl⟩ := List.append_eq_nil_iff.mp hnil.symm
    simp at hsize
  | case3 n c s hle ih =>
    constructor
    · intro h
      obtain ⟨⟨a', b'⟩, hcut, heq⟩ := Option.map_eq_some_iff.mp h
      obtain ⟨rfl, rfl⟩ : c :: a' = a ∧ b' = b := by simpa using heq
      obtain ⟨rfl, hsize⟩ := ih.mp hcut
      rw [utf8ByteSize_ofList_cons, hsize]
      exact ⟨rfl, by omega⟩
    · rintro ⟨hs, hsize⟩
      cases a with
      | nil => simp at hsize
      | cons d a =>
        obtain ⟨rfl, rfl⟩ := List.cons_eq_cons.mp hs
        rw [utf8ByteSize_ofList_cons] at hsize
        have hcut := ih.mpr ⟨rfl, by omega⟩
        rw [hcut]
        rfl
  | case4 n c s hgt =>
    refine iff_of_false (by simp) ?_
    rintro ⟨hs, hsize⟩
    cases a with
    | nil => simp at hsize
    | cons d a =>
      obtain ⟨rfl, rfl⟩ := List.cons_eq_cons.mp hs
      rw [utf8ByteSize_ofList_cons] at hsize
      omega

/-- The text after a beginning. -/
theorem after?_eq_some_iff {p s rest : List Char} : after? p s = some rest ↔ s = p ++ rest := by
  fun_induction after? p s with
  | case1 s => simp
  | case2 p d s ih => simpa using ih
  | case3 c p d s hne =>
    refine iff_of_false (by simp) fun h => hne ?_
    exact (List.cons_eq_cons.mp h).1.symm
  | case4 p => simp

/-- A name is replaced where it stands, the column being counted in bytes, and nothing else is. -/
theorem replaceAt?_eq_some_iff {line name new l : String} {column : ℕ} :
    replaceAt? line column name new = some l ↔ ∃ before after, line = before ++ name ++ after ∧
      before.utf8ByteSize + 1 = column ∧ l = before ++ new ++ after := by
  cases column with
  | zero => exact iff_of_false (by simp [replaceAt?]) (by simp)
  | succ start =>
    constructor
    · intro h
      cases hcut : splitBytes? start line.toList with
      | none => simp [replaceAt?, hcut] at h
      | some parts =>
        obtain ⟨before, tail⟩ := parts
        simp only [replaceAt?, hcut, Option.map_eq_some_iff] at h
        obtain ⟨after, hafter, rfl⟩ := h
        obtain ⟨hline, hsize⟩ := splitBytes?_eq_some_iff.mp hcut
        rw [after?_eq_some_iff.mp hafter] at hline
        refine ⟨String.ofList before, String.ofList after, ?_, by rw [hsize], ?_⟩
        · rw [← String.toList_inj, hline]
          simp
        · rw [← String.toList_inj]
          simp
    · rintro ⟨before, after, rfl, hsize, rfl⟩
      have hcut : splitBytes? start (before ++ name ++ after).toList =
          some (before.toList, name.toList ++ after.toList) := by
        rw [splitBytes?_eq_some_iff, String.ofList_toList]
        exact ⟨by simp, by omega⟩
      have hafter : after? name.toList (name.toList ++ after.toList) = some after.toList :=
        after?_eq_some_iff.mpr rfl
      simp only [replaceAt?, hcut, hafter, Option.map_some, Option.some.injEq]
      rw [← String.toList_inj]
      simp

/-- A name stutters if a part as long as the package's name is that name, in some case, and the rest
is a name of its own. -/
theorem stutterRest?_eq_some_iff {package name rest : String} :
    stutterRest? package name = some rest ↔ ∃ head, name = head ++ rest ∧
      head.utf8ByteSize = package.utf8ByteSize ∧
      equalIgnoringAsciiCase head.toList package.toList ∧ isStutterRest rest.toList := by
  constructor
  · intro h
    cases hcut : splitBytes? package.utf8ByteSize name.toList with
    | none => simp [stutterRest?, hcut] at h
    | some parts =>
      obtain ⟨head, tail⟩ := parts
      simp only [stutterRest?, hcut, Option.ite_none_right_eq_some, Option.some.injEq,
        Bool.and_eq_true] at h
      obtain ⟨⟨hcase, hrest⟩, rfl⟩ := h
      obtain ⟨hname, hsize⟩ := splitBytes?_eq_some_iff.mp hcut
      refine ⟨String.ofList head, ?_, hsize, by rwa [String.toList_ofList],
        by rwa [String.toList_ofList]⟩
      rw [← String.toList_inj, hname]
      simp
  · rintro ⟨head, rfl, hsize, hcase, hrest⟩
    have hcut : splitBytes? package.utf8ByteSize (head ++ rest).toList =
        some (head.toList, rest.toList) := by
      rw [splitBytes?_eq_some_iff, String.ofList_toList]
      exact ⟨by simp, hsize⟩
    simp only [stutterRest?, hcut, hcase, hrest, Bool.and_self, if_true, String.ofList_toList]

end GoStyle
