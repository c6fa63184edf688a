import Mathlib.Data.List.Basic
import GoStyle.Lint.Linter

/-!
# Turns

A linter works in turns: on every file, in order, each of its rules in order, those left out that
stay silent on a generated file. A turn sees the notes that the turns before it left, and leaves its
own, also when it has a fault. `Linter.turns` is that sequence without the notes and `withNotes`
adds them; together they are the runs of the linter (`Linter.runs_eq`). `Linter.found` is what the
turns find, one after the other.
-/

namespace GoStyle

/-- A rule's look at a file. -/
structure Turn where
  rule : Rule
  context : FileContext

/-- The notes after a turn. -/
def Turn.notes (s : PassState) (t : Turn) : PassState :=
  (t.rule.check t.context s).2

/-- The run that a turn is, given the notes before it. -/
def Turn.run (t : Turn) (s : PassState) : Run :=
  ⟨t.rule.name, t.context.file.path, (t.rule.check t.context s).1⟩

/-- What a turn finds, marked with its rule; nothing if it has a fault. -/
def Turn.found (t : Turn) (s : PassState) : List Problem :=
  match (t.rule.check t.context s).1 with
  | .ok ps => ps.map fun p => { p with rule := t.rule.name }
  | .error _ => []

/-- Turns with the notes before each, `s` being those before the first. -/
def withNotes : PassState → List Turn → List (Turn × PassState)
  | _, [] => []
  | s, t :: ts => (t, s) :: withNotes (t.notes s) ts

/-- Whether a rule stays silent on a file because it is generated. -/
def FileContext.silences (c : FileContext) (r : Rule) : Bool :=
  r.skipsGenerated && c.isGenerated

/-- The turns on one file. -/
def FileContext.turns (c : FileContext) (rules : List Rule) : List Turn :=
  (rules.filter fun r => !c.silences r).map fun r => ⟨r, c⟩

/-- The files of a package as its rules see them. -/
def Linter.contexts (l : Linter) (files : List SourceFile) : List FileContext :=
  files.zipIdx.map fun (f, i) => ⟨f, i, PackageContext.build files l.policy, l.policy⟩

/-- The turns of a linter. -/
def Linter.turns (l : Linter) (files : List SourceFile) : List Turn :=
  (l.contexts files).flatMap fun c => c.turns l.rules

/-- What the turns of a linter find, in order. -/
def Linter.found (l : Linter) (files : List SourceFile) : List Problem :=
  (withNotes PassState.empty (l.turns files)).flatMap fun (t, s) => t.found s

theorem Turn.problems_run (t : Turn) (s : PassState) : (t.run s).problems = t.found s := by
  unfold Run.problems Turn.run Turn.found
  cases (t.rule.check t.context s).1 <;> rfl

/-! ## Notes -/

theorem withNotes_append : ∀ (s : PassState) (ts us : List Turn),
    withNotes s (ts ++ us) = withNotes s ts ++ withNotes (ts.foldl Turn.notes s) us
  | _, [], _ => rfl
  | s, t :: ts, us => by
    rw [List.cons_append, withNotes, withNotes, withNotes_append (t.notes s) ts us,
      List.foldl_cons, List.cons_append]

/-- The notes before a turn are those that all turns before it left. -/
theorem getElem?_withNotes : ∀ (s : PassState) (ts : List Turn) (n : ℕ),
    (withNotes s ts)[n]? = ts[n]?.map fun t => (t, (ts.take n).foldl Turn.notes s)
  | _, [], _ => by simp [withNotes]
  | _, _ :: _, 0 => by simp [withNotes]
  | s, t :: ts, n + 1 => by
    rw [withNotes, List.getElem?_cons_succ, List.getElem?_cons_succ, List.take_succ_cons,
      List.foldl_cons, getElem?_withNotes (t.notes s) ts n]

theorem map_fst_withNotes : ∀ (s : PassState) (ts : List Turn),
    (withNotes s ts).map Prod.fst = ts
  | _, [] => rfl
  | s, t :: ts => by rw [withNotes, List.map_cons, map_fst_withNotes (t.notes s) ts]

/-- Every turn is taken with some notes before it. -/
theorem exists_mem_withNotes {s : PassState} {ts : List Turn} {t : Turn} (h : t ∈ ts) :
    ∃ s', (t, s') ∈ withNotes s ts := by
  rw [← map_fst_withNotes s ts, List.mem_map] at h
  obtain ⟨⟨t, s'⟩, hmem, rfl⟩ := h
  exact ⟨s', hmem⟩

theorem mem_of_mem_withNotes {s s' : PassState} {ts : List Turn} {t : Turn}
    (h : (t, s') ∈ withNotes s ts) : t ∈ ts := by
  rw [← map_fst_withNotes s ts]
  exact List.mem_map_of_mem h

/-- What rules see is a file with its index, the facts of all files and the policy. -/
theorem Linter.mem_contexts {l : Linter} {files : List SourceFile} {c : FileContext} :
    c ∈ l.contexts files ↔ files[c.index]? = some c.file ∧
      c.package = PackageContext.build files l.policy ∧ c.policy = l.policy := by
  obtain ⟨file, index, package, policy⟩ := c
  simp only [Linter.contexts, List.mem_map, Prod.exists, List.mk_mem_zipIdx_iff_getElem?,
    FileContext.mk.injEq]
  constructor
  · rintro ⟨f, i, hget, rfl, rfl, hpackage, hpolicy⟩
    exact ⟨hget, hpackage.symm, hpolicy.symm⟩
  · rintro ⟨hget, hpackage, hpolicy⟩
    exact ⟨file, index, hget, rfl, rfl, hpackage.symm, hpolicy.symm⟩

theorem Linter.file_mem_of_mem_contexts {l : Linter} {files : List SourceFile} {c : FileContext}
    (h : c ∈ l.contexts files) : c.file ∈ files :=
  List.mem_of_getElem? (Linter.mem_contexts.mp h).1

/-- A turn is one of the rules on one of the files, unless the rule stays silent there. -/
theorem Linter.mem_turns {l : Linter} {files : List SourceFile} {t : Turn} :
    t ∈ l.turns files ↔ t.context ∈ l.contexts files ∧ t.rule ∈ l.rules ∧
      t.context.silences t.rule = false := by
  obtain ⟨r, c⟩ := t
  simp only [Linter.turns, FileContext.turns, List.mem_flatMap, List.mem_map, List.mem_filter]
  constructor
  · rintro ⟨c', hc, r', ⟨hr, hsil⟩, heq⟩
    obtain ⟨rfl, rfl⟩ := Turn.mk.inj heq
    exact ⟨hc, hr, by simpa using hsil⟩
  · rintro ⟨hc, hr, hsil⟩
    exact ⟨c, hc, r, ⟨hr, by simpa using hsil⟩, rfl⟩

/-- What is found is found in some turn. -/
theorem Linter.mem_found {l : Linter} {files : List SourceFile} {p : Problem} :
    p ∈ l.found files ↔
      ∃ t s, (t, s) ∈ withNotes PassState.empty (l.turns files) ∧ p ∈ t.found s := by
  simp [Linter.found, List.mem_flatMap]

/-! ## Runs -/

theorem FileContext.turns_cons (c : FileContext) (r : Rule) (rs : List Rule) :
    c.turns (r :: rs) = if c.silences r then c.turns rs else ⟨r, c⟩ :: c.turns rs := by
  rw [FileContext.turns, FileContext.turns, List.filter_cons]
  cases c.silences r <;> rfl

/-- The runs on one file are its turns. -/
theorem runRules_eq (c : FileContext) : ∀ (rules : List Rule) (s : PassState),
    runRules c rules s = ((withNotes s (c.turns rules)).map fun (t, s) => t.run s,
      (c.turns rules).foldl Turn.notes s)
  | [], s => rfl
  | r :: rs, s => by
    rw [runRules, FileContext.turns_cons, FileContext.silences]
    split
    · exact runRules_eq c rs s
    · rw [withNotes, List.map_cons, List.foldl_cons]
      simp only [runRules_eq c rs]
      rfl

/-- The runs on some files are their turns. -/
theorem runFiles_eq (package : PackageContext) (policy : Policy) (rules : List Rule) :
    ∀ (n : ℕ) (files : List SourceFile) (s : PassState),
      runFiles package policy rules n files s = (withNotes s ((files.zipIdx n).flatMap
        fun (f, i) => (FileContext.mk f i package policy).turns rules)).map fun (t, s) => t.run s
  | _, [], _ => rfl
  | n, f :: fs, s => by
    rw [runFiles, runRules_eq]
    simp only [runFiles_eq package policy rules (n + 1) fs, List.zipIdx_cons, List.flatMap_cons,
      withNotes_append, List.map_append]

/-- The runs of a linter are its turns, each with the notes that the turns before it left. -/
theorem Linter.runs_eq (l : Linter) (files : List SourceFile) :
    l.runs files = (withNotes PassState.empty (l.turns files)).map fun (t, s) => t.run s := by
  rw [Linter.runs, runFiles_eq, Linter.turns, Linter.contexts, List.flatMap_map]

/-- The problems of the runs are what the turns find. -/
theorem Linter.flatMap_runs (l : Linter) (files : List SourceFile) :
    (l.runs files).flatMap Run.problems = l.found files := by
  rw [Linter.runs_eq, List.flatMap_map, Linter.found]
  simp only [Turn.problems_run]

end GoStyle
