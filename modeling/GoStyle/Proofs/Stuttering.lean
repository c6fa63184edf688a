import Mathlib.Data.List.Forall2
import Mathlib.Data.List.ReduceOption
import GoStyle.Proofs.AsciiForms
import GoStyle.Proofs.Cuts
import GoStyle.Proofs.DeclaredNames

/-!
# Names that stutter

A name repeats the package's name if it can be split into a part that is the package's name, but for
the case of ASCII letters, and a rest that is a name of its own (`Repeats`). The split says nothing
about bytes. Letters that differ in case have the same size (`utf8Size_asciiLower`), so the first
part is as long as the package's name however it is measured; hence there is one split at most
(`Repeats.unique`), and cutting the name at the number of bytes of the package's name finds it
(`stutterRest?_eq_some_iff_repeats`). With this the rule on stuttering names has one verdict on each
declared name (`FileContext.stutterRule_verdicts`).
-/

namespace GoStyle

/-! ## The case of ASCII letters -/

/-- Whether two texts are the same but for the case of ASCII letters. -/
def SameButCase (s t : String) : Prop :=
  s.toList.map asciiLower = t.toList.map asciiLower

theorem isAscii_of_isAsciiUpper {c : Char} (h : isAsciiUpper c) : isAscii c := by
  rw [isAsciiUpper, Bool.and_eq_true, decide_eq_true_iff, decide_eq_true_iff] at h
  rw [isAscii_iff]
  exact Nat.lt_of_le_of_lt (UInt32.le_iff_toNat_le.mp h.2) (by decide)

theorem utf8Size_asciiLower (c : Char) : (asciiLower c).utf8Size = c.utf8Size := by
  by_cases hupper : isAsciiUpper c
  · exact forall_ascii (P := fun c => (asciiLower c).utf8Size = c.utf8Size) (by decide)
      (isAscii_of_isAsciiUpper hupper)
  · rw [asciiLower, if_neg hupper]

theorem utf8ByteSize_map_asciiLower : ∀ s : List Char,
    (String.ofList (s.map asciiLower)).utf8ByteSize = (String.ofList s).utf8ByteSize
  | [] => rfl
  | c :: s => by
    rw [List.map_cons, utf8ByteSize_ofList_cons, utf8ByteSize_ofList_cons, utf8Size_asciiLower,
      utf8ByteSize_map_asciiLower s]

namespace SameButCase

variable {s t : String}

theorem length_eq (h : SameButCase s t) : s.toList.length = t.toList.length := by
  have hlength := congrArg List.length h
  rwa [List.length_map, List.length_map] at hlength

theorem utf8ByteSize_eq (h : SameButCase s t) : s.utf8ByteSize = t.utf8ByteSize := by
  have hsize := congrArg (fun cs => (String.ofList cs).utf8ByteSize) h
  simpa only [utf8ByteSize_map_asciiLower, String.ofList_toList] using hsize

theorem append_right (h : SameButCase s t) (rest : String) :
    SameButCase (s ++ rest) (t ++ rest) := by
  rw [SameButCase, String.toList_append, String.toList_append, List.map_append, List.map_append, h]

end SameButCase

/-! ## Splits -/

/-- Whether a name is the name of a package, in some case, and a rest that could do as a name: at
least three characters, the first an underscore or upper-case. -/
structure Repeats (package name head rest : String) : Prop where
  name_eq : name = head ++ rest
  head_same : SameButCase head package
  length_rest : 3 ≤ rest.length
  rest_starts : ∃ c ∈ rest.toList.head?, c = '_' ∨ isUpper c

namespace Repeats

variable {package name head rest head' rest' : String}

/-- A name can be split in one way only. -/
theorem unique (h : Repeats package name head rest) (h' : Repeats package name head' rest') :
    head = head' ∧ rest = rest' := by
  have hlength : head.toList.length = head'.toList.length :=
    h.head_same.length_eq.trans h'.head_same.length_eq.symm
  have hsplit : head.toList ++ rest.toList = head'.toList ++ rest'.toList := by
    rw [← String.toList_append, ← String.toList_append, ← h.name_eq, ← h'.name_eq]
  obtain ⟨hhead, hrest⟩ := List.append_inj hsplit hlength
  exact ⟨String.toList_inj.mp hhead, String.toList_inj.mp hrest⟩

/-- The name of the package and the rest are the name again, but for the case. -/
theorem sameButCase (h : Repeats package name head rest) : SameButCase name (package ++ rest) := by
  rw [h.name_eq]
  exact h.head_same.append_right rest

end Repeats

theorem isStutterRest_iff {rest : String} : isStutterRest rest.toList ↔
    3 ≤ rest.length ∧ ∃ c ∈ rest.toList.head?, c = '_' ∨ isUpper c := by
  rw [← String.length_toList]
  cases rest.toList with
  | nil => simp [isStutterRest]
  | cons c s =>
    have hlength : 3 ≤ (c :: s).length ↔ 2 ≤ s.length := by
      rw [List.length_cons]
      omega
    rw [hlength]
    simp [isStutterRest, and_comm]

/-- Cutting a name at the number of bytes of the package's name finds its split. -/
theorem stutterRest?_eq_some_iff_repeats {package name rest : String} :
    stutterRest? package name = some rest ↔ ∃ head, Repeats package name head rest := by
  rw [stutterRest?_eq_some_iff]
  refine exists_congr fun head => ?_
  rw [isStutterRest_iff, equalIgnoringAsciiCase, beq_iff_eq]
  constructor
  · rintro ⟨hname, -, hsame, hlength, hstarts⟩
    exact ⟨hname, hsame, hlength, hstarts⟩
  · rintro ⟨hname, hsame, hlength, hstarts⟩
    exact ⟨hname, hsame.utf8ByteSize_eq, hsame, hlength, hstarts⟩

/-- The package's name may end inside a character of the other name. -/
example : stutterRest? "db" "DBOpen" = some "Open" ∧ stutterRest? "e" "Éclair" = none := by
  decide +kernel

/-! ## Verdicts -/

namespace FileContext

variable (c : FileContext)

/-- Whether other packages would use a declared name with the package's name written twice. -/
def Stutters (d : DeclaredName) : Prop :=
  d.kind ≠ .method ∧ d.ident.isExported ∧ c.policy.isKnownException d.ident.name = false ∧
    ∃ head rest, Repeats c.packageName d.ident.name head rest

/-- A problem of a declared name that stutters, with the name that could do instead. -/
structure ReportsStutter (p : Problem) (d : DeclaredName) (rest : String) : Prop where
  position : p.position =
    ⟨c.file.path, d.ident.pos.line, d.ident.pos.column, d.ident.pos.offset⟩
  category : p.category = namingCategory
  confidence : p.confidence = 0.8
  text : p.text = d.kind.word ++ " name will be used as " ++ c.packageName ++ "." ++
    d.ident.name ++ " by other packages, and that stutters; consider calling this " ++ rest
  link : p.link = some (reviewGuide "package-names")

/-- What there is to say about a declared name. -/
inductive JudgesStutter (d : DeclaredName) : Option Problem → Prop
  | clean : ¬c.Stutters d → JudgesStutter d none
  | stutters {head rest p} : c.Stutters d → Repeats c.packageName d.ident.name head rest →
    c.ReportsStutter p d rest → JudgesStutter d (some p)

theorem judges_declaredStutter (d : DeclaredName) : c.JudgesStutter d (c.declaredStutter d) := by
  unfold declaredStutter stutter
  split_ifs with hmethod hskip
  · exact .clean fun h => h.1 hmethod
  · refine .clean fun ⟨_, hexported, hknown, _⟩ => ?_
    rw [hexported, hknown] at hskip
    cases hskip
  · rw [Bool.or_eq_true, not_or, Bool.not_eq_true, Bool.not_eq_false', Bool.not_eq_true] at hskip
    cases hrest : stutterRest? c.packageName d.ident.name with
    | none =>
      refine .clean fun ⟨_, _, _, head, rest, hrepeats⟩ => ?_
      rw [stutterRest?_eq_some_iff_repeats.mpr ⟨head, hrepeats⟩] at hrest
      cases hrest
    | some rest =>
      obtain ⟨head, hrepeats⟩ := stutterRest?_eq_some_iff_repeats.mp hrest
      exact .stutters ⟨hmethod, hskip.1, hskip.2, head, rest, hrepeats⟩ hrepeats
        ⟨rfl, rfl, rfl, rfl, rfl⟩

/-- The rule has one verdict on each declared name of a file, in order, and its problems are those
of the verdicts: one problem with each name that stutters and nothing else. The rest that it quotes
belongs to the only split of the name, and makes up the name again together with the package's name,
but for the case. -/
theorem stutterRule_verdicts (s : PassState) :
    ∃ verdicts, stutterRule.check c s = (.ok verdicts.reduceOption, s) ∧
      List.Forall₂ c.JudgesStutter c.file.declared verdicts ∧
      ∀ name head rest, Repeats c.packageName name head rest →
        SameButCase name (c.packageName ++ rest) ∧
        ∀ head' rest', Repeats c.packageName name head' rest' → head' = head ∧ rest' = rest := by
  refine ⟨c.file.declared.map c.declaredStutter, ?_, ?_, fun name head rest h =>
    ⟨h.sameButCase, fun head' rest' h' => h'.unique h⟩⟩
  · rw [List.reduceOption, List.filterMap_map, Function.id_comp, ← c.flatMap_stutters]
    rfl
  · rw [List.forall₂_map_right_iff, List.forall₂_same]
    exact fun d _ => c.judges_declaredStutter d

end FileContext

end GoStyle
