import GoStyle.Proofs.Independence
import GoStyle.Proofs.Provenance

/-!
# Runs of one rule

Among the runs of a linter those of one rule are found by its name, for no two rules share one
(`eq_of_name_eq`). They are its turns: as many on each file as the rule is listed, none on generated
files (`Linter.filter_turns`). Where a rule that keeps no notes has no faults, its runs are told by
what it finds in each file (`Linter.filter_runs_eq_runsOf`).
-/

namespace GoStyle

/-- No two rules have the same name. -/
theorem eq_of_name_eq {r r' : Rule} (hr : r ∈ defaultRules) (hr' : r' ∈ defaultRules)
    (h : r.name = r'.name) : r = r' := by
  have hnodup : (defaultRules.map Rule.name).Nodup := by decide
  exact List.inj_on_of_nodup_map hnodup hr hr' h

/-- How often a rule is run on a file: as often as it is listed, and never if the file is generated.
-/
def Linter.timesOn (l : Linter) (r : Rule) (c : FileContext) : ℕ :=
  if c.isGenerated then 0 else l.rules.countP (·.name == r.name)

/-- The runs of a rule that finds the given problems in each file. -/
def Linter.runsOf (l : Linter) (files : List SourceFile) (r : Rule)
    (found : FileContext → List Problem) : List Run :=
  (l.contexts files).flatMap fun c =>
    List.replicate (l.timesOn r c) ⟨r.name, c.file.path, .ok (found c)⟩

/-- The turns of a rule on one file. -/
theorem FileContext.filter_turns (c : FileContext) {r : Rule} (hr : r ∈ defaultRules) :
    ∀ {rules : List Rule}, (∀ r' ∈ rules, r' ∈ defaultRules) →
      (c.turns rules).filter (·.rule.name == r.name) =
        if c.isGenerated then [] else List.replicate (rules.countP (·.name == r.name)) ⟨r, c⟩
  | [], _ => by simp [FileContext.turns]
  | r' :: rules, hrules => by
    obtain ⟨hr', hrest⟩ := List.forall_mem_cons.mp hrules
    have ih := FileContext.filter_turns c hr hrest
    have hsilences : c.silences r' = c.isGenerated := by
      rw [FileContext.silences, skipsGenerated_of_mem hr', Bool.true_and]
    rw [FileContext.turns_cons, hsilences]
    cases hgen : c.isGenerated with
    | true =>
      rw [hgen] at ih
      exact ih
    | false =>
      rw [hgen] at ih
      by_cases hname : r'.name = r.name
      · obtain rfl := eq_of_name_eq hr' hr hname
        simpa [List.replicate_succ] using ih
      · simpa [hname] using ih

section Runs

variable (l : Linter) (files : List SourceFile)

/-- The turns of a rule: as many on each file as the rule is listed, none on generated files. -/
theorem Linter.filter_turns (hrules : ∀ r ∈ l.rules, r ∈ defaultRules) {r : Rule}
    (hr : r ∈ defaultRules) : (l.turns files).filter (·.rule.name == r.name) =
      (l.contexts files).flatMap fun c => List.replicate (l.timesOn r c) ⟨r, c⟩ := by
  rw [Linter.turns, List.filter_flatMap]
  refine List.flatMap_congr fun c _ => ?_
  rw [c.filter_turns hr hrules, Linter.timesOn]
  cases c.isGenerated <;> rfl

/-- The runs of a rule are its turns. -/
theorem Linter.filter_runs (rule : String) : (l.runs files).filter (·.rule == rule) =
    ((withNotes PassState.empty (l.turns files)).filter (·.1.rule.name == rule)).map
      fun (t, s) => t.run s := by
  rw [Linter.runs_eq, List.filter_map]
  rfl

/-- The turns of a rule, with or without the notes before them. -/
theorem Linter.map_fst_filter_withNotes (rule : String) :
    ((withNotes PassState.empty (l.turns files)).filter (·.1.rule.name == rule)).map Prod.fst =
      (l.turns files).filter (·.rule.name == rule) := by
  rw [← map_fst_withNotes PassState.empty (l.turns files), List.filter_map,
    map_fst_withNotes PassState.empty (l.turns files)]
  rfl

/-- The runs of a rule that keeps no notes, if it has no faults. -/
theorem Linter.filter_runs_eq_runsOf (hrules : ∀ r ∈ l.rules, r ∈ defaultRules) {r : Rule}
    (hr : r ∈ defaultRules) (hne : r.name ≠ valueDocRule.name) {found : FileContext → List Problem}
    (hfound : ∀ c ∈ l.contexts files, (r.check c PassState.empty).1 = .ok (found c)) :
    (l.runs files).filter (·.rule == r.name) = l.runsOf files r found := by
  have hrun : ∀ ts ∈ (withNotes PassState.empty (l.turns files)).filter (·.1.rule.name == r.name),
      ts.1.run ts.2 = ⟨r.name, ts.1.context.file.path, .ok (found ts.1.context)⟩ := by
    rintro ⟨t, s⟩ hts
    obtain ⟨hmem, hname⟩ := List.mem_filter.mp hts
    obtain ⟨hc, hmem, -⟩ := Linter.mem_turns.mp (mem_of_mem_withNotes hmem)
    obtain rfl := eq_of_name_eq (hrules _ hmem) hr (beq_iff_eq.mp hname)
    rw [Turn.run, check_eq_of_ne_valueDoc hr (fun h => hne (congrArg Rule.name h)), hfound _ hc]
  let toRun (t : Turn) : Run := ⟨r.name, t.context.file.path, .ok (found t.context)⟩
  calc (l.runs files).filter (·.rule == r.name)
      = (((withNotes PassState.empty (l.turns files)).filter (·.1.rule.name == r.name)).map
          Prod.fst).map toRun := by
        rw [Linter.filter_runs, List.map_congr_left hrun, List.map_map]
        rfl
    _ = ((l.contexts files).flatMap fun c => List.replicate (l.timesOn r c) ⟨r, c⟩).map toRun := by
        rw [l.map_fst_filter_withNotes, l.filter_turns files hrules hr]
    _ = l.runsOf files r found := by
        rw [List.map_flatMap, Linter.runsOf]
        simp only [List.map_replicate]
        rfl

end Runs

/-- A linter with the given rules that takes no file for generated. -/
def Linter.ofRules (rules : List Rule) : Linter :=
  { strictLinter with rules, policy := ⟨[], []⟩ }

end GoStyle
