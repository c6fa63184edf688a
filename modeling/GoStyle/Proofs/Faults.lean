import GoStyle.Lint.DefaultRules
import GoStyle.Proofs.Cuts
import GoStyle.Proofs.Gathering
import GoStyle.Proofs.Overruns
import GoStyle.Proofs.Turns

/-!
# Faults

Of all rules only the one on names can have a fault, and only on a file that declares a name which
overruns and is no exception (`check_fault_iff`); comments that end on a line after which lines can
be counted are taken for granted. A run of all rules keeps every result exactly if no file that is
not generated declares such a name (`Linter.default_faults`).
-/

namespace GoStyle

/-! ## Names that are looked at -/

/-- The names that a declaration declares, but those of functions that the testing tool finds. -/
def Decl.checkedNames (inTest : Bool) : Decl → List Ident
  | .type d => d.specs.map (·.name)
  | .func f => if inTest && isTestFuncName f.name.name then [] else [f.name]
  | .value d => d.specs.flatMap (·.names)

/-- The names of a file that are looked at. -/
def SourceFile.checkedNames (f : SourceFile) : List Ident :=
  f.decls.flatMap (Decl.checkedNames f.isTest)

/-- Whether a file declares a name that overruns and is no exception. -/
def FileContext.HasOverrun (c : FileContext) : Prop :=
  ∃ id ∈ c.file.checkedNames, c.policy.isKnownException id.name = false ∧
    Overruns true id.name.toList

/-! ## The rule on names -/

/-- A name in capitals is written in ASCII. -/
theorem not_sharp_of_isAllCaps {s : List Char} (h : isAllCaps s) : 'ß' ∉ s := by
  intro hsharp
  simp only [isAllCaps, Bool.and_eq_true, List.all_eq_true] at h
  have := h.1.2 'ß' hsharp
  revert this
  decide

/-- Looking at a name runs into a fault if it overruns and is no exception. -/
theorem FileContext.nameFaults_fault_iff (c : FileContext) (thing : String)
    (kind? : Option ValueKind) (id : Ident) : (∃ e, c.nameFaults thing kind? id = .error e) ↔
      c.policy.isKnownException id.name = false ∧ Overruns true id.name.toList := by
  unfold FileContext.nameFaults
  split_ifs with hskip hcaps
  · refine iff_of_false (by simp) fun ⟨hknown, hover⟩ => ?_
    rcases hskip with hblank | hexempt
    · rw [hblank] at hover
      exact absurd hover.sharp_mem (by decide)
    · rw [hknown] at hexempt
      cases hexempt
  · exact iff_of_false (by simp) fun ⟨_, hover⟩ => not_sharp_of_isAllCaps hcaps hover.sharp_mem
  · have hknown : c.policy.isKnownException id.name = false := by
      rw [not_or] at hskip
      simpa using hskip.2
    rw [← mixedCaps_fault_iff, and_iff_right hknown]
    cases mixedCaps id.name.toList with
    | error e => simp
    | ok new =>
      refine iff_of_false ?_ (by simp)
      dsimp only
      split <;> simp

/-- Looking at a declaration runs into a fault if one of its names does. -/
theorem FileContext.declNameFaults_fault_iff (c : FileContext) (d : Decl) :
    (∃ e, c.declNameFaults d = .error e) ↔ ∃ id ∈ d.checkedNames c.file.isTest,
      c.policy.isKnownException id.name = false ∧ Overruns true id.name.toList := by
  cases d with
  | type d =>
    rw [FileContext.declNameFaults, collectFaults_eq_gather, gather_fault_iff]
    simp only [FileContext.nameFaults_fault_iff, Decl.checkedNames]
  | func f =>
    rw [FileContext.declNameFaults, Decl.checkedNames]
    by_cases hfound : c.file.isTest && isTestFuncName f.name.name
    · rw [if_pos hfound, if_pos hfound]
      simp
    · rw [if_neg hfound, if_neg hfound, FileContext.nameFaults_fault_iff]
      simp
  | value d =>
    rw [FileContext.declNameFaults, collectFaults_eq_gather, gather_fault_iff]
    simp only [FileContext.nameFaults_fault_iff, Decl.checkedNames]

/-- The rule on names has a fault on the files that declare a name which overruns. -/
theorem FileContext.names_fault_iff (c : FileContext) :
    (∃ e, c.names = .error e) ↔ c.HasOverrun := by
  have hdecls : (∃ e, c.declsNameFaults c.file.decls = .error e) ↔ c.HasOverrun := by
    rw [FileContext.declsNameFaults_eq_gather, gather_fault_iff]
    simp only [FileContext.declNameFaults_fault_iff, FileContext.HasOverrun,
      SourceFile.checkedNames, List.mem_flatMap]
    constructor
    · rintro ⟨d, hd, id, hid, h⟩
      exact ⟨id, ⟨d, hd, hid⟩, h⟩
    · rintro ⟨id, ⟨d, hd, hid⟩, h⟩
      exact ⟨d, hd, id, hid, h⟩
  rw [← hdecls, FileContext.names]
  cases c.declsNameFaults c.file.decls <;> simp

/-! ## The other rules -/

/-- The rule on package comments has no fault where lines can be counted. -/
theorem FileContext.packageComment_ne_error {c : FileContext}
    (hlines : ∀ g ∈ c.file.leadingComments, g.endLine < twoTo 63) (e : RuleFault) :
    c.packageComment ≠ .error e := by
  unfold FileContext.packageComment
  split_ifs
  · simp
  · split
    · simp
    · rename_i last hlast
      have hmem : last ∈ c.file.leadingComments := by
        obtain ⟨hget, -⟩ := Option.filter_eq_some_iff.mp hlast
        exact List.mem_of_getLast? hget
      have hline : last.endLine + 1 < lineLimit := by
        have := hlines last hmem
        have hlimit : lineLimit = 2 * twoTo 63 := by decide
        omega
      rw [if_neg (by omega)]
      split_ifs <;> simp

/-- Of all rules only the one on names can have a fault, whatever the notes are. -/
theorem check_fault_iff {r : Rule} (hr : r ∈ defaultRules) {c : FileContext}
    (hlines : ∀ g ∈ c.file.leadingComments, g.endLine < twoTo 63) (s : PassState) :
    (∃ e, (r.check c s).1 = .error e) ↔ r = namesRule ∧ c.HasOverrun := by
  by_cases hnames : r = namesRule
  · subst hnames
    rw [and_iff_right rfl, ← c.names_fault_iff]
    rfl
  · refine iff_of_false ?_ fun h => hnames h.1
    rintro ⟨e, he⟩
    simp only [defaultRules, List.mem_cons, List.not_mem_nil, or_false] at hr
    rcases hr with rfl | rfl | rfl | rfl | rfl | rfl | rfl
    · exact c.packageComment_ne_error hlines e he
    · cases he
    · cases he
    · cases he
    · cases he
    · exact hnames rfl
    · cases he

/-! ## Runs -/

theorem Turn.isFaulty_run (t : Turn) (s : PassState) :
    (t.run s).isFaulty ↔ ∃ e, (t.rule.check t.context s).1 = .error e := by
  unfold Run.isFaulty Turn.run
  cases (t.rule.check t.context s).1 <;> simp

theorem Linter.mem_runs {l : Linter} {files : List SourceFile} {run : Run} : run ∈ l.runs files ↔
    ∃ t s, (t, s) ∈ withNotes PassState.empty (l.turns files) ∧ t.run s = run := by
  simp [Linter.runs_eq, List.mem_map]

/-- A run with all rules has a fault exactly if a file that is not generated declares a name which
overruns. -/
theorem Linter.exists_faulty_iff {l : Linter} (hrules : l.rules = defaultRules)
    {files : List SourceFile}
    (hlines : ∀ f ∈ files, ∀ g ∈ f.leadingComments, g.endLine < twoTo 63) :
    (∃ run ∈ l.runs files, run.isFaulty) ↔
      ∃ c ∈ l.contexts files, c.isGenerated = false ∧ c.HasOverrun := by
  have hsil : ∀ c : FileContext, c.silences namesRule = c.isGenerated := fun c => rfl
  constructor
  · rintro ⟨run, hrun, hfaulty⟩
    obtain ⟨t, s, hts, rfl⟩ := Linter.mem_runs.mp hrun
    obtain ⟨hc, hr, hrest⟩ := Linter.mem_turns.mp (mem_of_mem_withNotes hts)
    rw [hrules] at hr
    rw [Turn.isFaulty_run, check_fault_iff hr (hlines _ (Linter.file_mem_of_mem_contexts hc))]
      at hfaulty
    rw [hfaulty.1, hsil] at hrest
    exact ⟨t.context, hc, hrest, hfaulty.2⟩
  · rintro ⟨c, hc, hgen, hover⟩
    have hmem : namesRule ∈ defaultRules := by simp [defaultRules]
    have hturn : ⟨namesRule, c⟩ ∈ l.turns files :=
      Linter.mem_turns.mpr ⟨hc, hrules ▸ hmem, by rw [hsil, hgen]⟩
    obtain ⟨s, hs⟩ := exists_mem_withNotes (s := PassState.empty) hturn
    refine ⟨_, Linter.mem_runs.mpr ⟨_, s, hs, rfl⟩, ?_⟩
    rw [Turn.isFaulty_run, check_fault_iff hmem (hlines _ (Linter.file_mem_of_mem_contexts hc))]
    exact ⟨rfl, hover⟩

/-- When a rule runs into a fault. On a file of a run, with any notes, it is the rule on names, and
exactly if the file declares a name that overruns, since those are the names without a mixed form; a
run loses results exactly if such a file is not generated. Nothing else can go wrong in a name or a
line: what is taken away behind a word are underscores, and the cuts for replacements and for
stuttering names lie between characters. -/
theorem Linter.default_faults (policy : Policy) (m : MinConfidence) (files : List SourceFile)
    (hlines : ∀ f ∈ files, ∀ g ∈ f.leadingComments, g.endLine < twoTo 63) :
    (∀ c ∈ (Linter.mk defaultRules policy m).contexts files, ∀ r ∈ defaultRules, ∀ s,
      (∃ e, (r.check c s).1 = .error e) ↔ r = namesRule ∧ c.HasOverrun) ∧
    ((∃ run ∈ (Linter.mk defaultRules policy m).runs files, run.isFaulty) ↔
      ∃ c ∈ (Linter.mk defaultRules policy m).contexts files,
        c.isGenerated = false ∧ c.HasOverrun) ∧
    (∀ name, (∃ e, mixedCaps name = .error e) ↔ Overruns true name) ∧
    (∀ last rest, ∃ n, rest = List.replicate n '_' ++ afterUnderscores last rest) ∧
    (∀ line column name new l, replaceAt? line column name new = some l ↔
      ∃ before after, line = before ++ name ++ after ∧ before.utf8ByteSize + 1 = column ∧
        l = before ++ new ++ after) ∧
    (∀ package name rest, stutterRest? package name = some rest → ∃ head, name = head ++ rest ∧
      head.utf8ByteSize = package.utf8ByteSize) := by
  refine ⟨fun c hc r hr s => ?_, exists_faulty_iff rfl hlines, mixedCaps_fault_iff,
    exists_afterUnderscores, fun line column name new l => replaceAt?_eq_some_iff,
    fun package name rest h => ?_⟩
  · exact check_fault_iff hr (hlines _ (file_mem_of_mem_contexts hc)) s
  · obtain ⟨head, hname, hsize, -⟩ := stutterRest?_eq_some_iff.mp h
    exact ⟨head, hname, hsize⟩

/-- A file that declares a function `Cß`. -/
def sharpFile : SourceFile :=
  { SourceFile.empty ⟨"a.go"⟩ "a" with
    decls := [.func ⟨⟨1, 1, 0⟩, ⟨"Cß", ⟨1, 6, 0⟩⟩, none, none⟩] }

theorem overruns_sharp : Overruns true "Cß".toList := by
  have hword : IsWord ['C', 'ß'] [] := .cons (by decide) (.last (by decide))
  exact .last hword (by decide) (by decide)

/-- The file `sharpFile` with a comment before its package clause. -/
def commentFile : SourceFile :=
  { sharpFile with leadingComments := [⟨Pos.start, 1, "A.\n", ["// A."]⟩] }

/-- A run with all rules on the file, whose comment ends on the first line, loses results. -/
theorem default_faults_commentFile :
    (∀ f ∈ [commentFile], ∀ g ∈ f.leadingComments, g.endLine < twoTo 63) ∧
    ∃ run ∈ (Linter.mk defaultRules ⟨[], []⟩ ⟨1, by decide⟩).runs [commentFile], run.isFaulty := by
  have hlines : ∀ f ∈ [commentFile], ∀ g ∈ f.leadingComments, g.endLine < twoTo 63 := by
    simp [commentFile, twoTo]
  obtain ⟨-, hruns, -⟩ := Linter.default_faults ⟨[], []⟩ ⟨1, by decide⟩ _ hlines
  exact ⟨hlines, hruns.mpr ⟨_, List.mem_cons_self, rfl, _, List.mem_cons_self, rfl, overruns_sharp⟩⟩

/-- The rule on names has a fault on the file whatever the notes are, and its results are lost. -/
theorem names_fault_sharpFile : ¬∀ c ∈ (Linter.mk defaultRules ⟨[], []⟩ ⟨1, by decide⟩).contexts
    [sharpFile], ∀ r ∈ defaultRules, ∀ s e, (r.check c s).1 ≠ .error e := by
  intro hnone
  obtain ⟨e, he⟩ := (FileContext.names_fault_iff ⟨sharpFile, 0,
    PackageContext.build [sharpFile] ⟨[], []⟩, ⟨[], []⟩⟩).mpr
      ⟨_, List.mem_cons_self, rfl, overruns_sharp⟩
  exact hnone _ List.mem_cons_self namesRule (by simp [defaultRules]) PassState.empty e he

end GoStyle
