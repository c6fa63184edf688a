import GoStyle.Command.Run
import GoStyle.Proofs.Surveys

/-!
# All or nothing

A check prints a report or fails, never both. Whatever gives trouble, in whichever package, nothing
goes to the standard output (`Workdir.runCheck_of_error`). Without trouble the records of all
packages stand there, one for each problem, and the count that is told and the exit status are about
the same problems (`Workdir.runCheck_of_ok`).
-/

namespace GoStyle

/-- What is printed for a problem, in the formats that print a record for each. -/
def Format.record? : Format → Option (Problem → String)
  | .text => some Problem.line
  | .compact => some Problem.compactLine
  | .json | .pretty => none

/-- A report in such a format is its records, each with a line end, and nothing else. -/
theorem Format.stdout_of_record {format : Format} {record : Problem → String}
    (h : format.record? = some record) (r : Report) :
    format.stdout r = String.join (r.problems.map fun p => record p ++ "\n") ∧
      format.stderr r = "" := by
  cases format with
  | text | compact =>
    obtain rfl := Option.some.inj h
    exact ⟨rfl, rfl⟩
  | json | pretty => cases h

/-- All failures but that of mixed targets are reported as errors, with exit status 1. -/
theorem Failure.report_cases (e : Failure) : e = .mixedTargets ∧ e.exitCode = 2 ∨
    e.exitCode = 1 ∧ ∃ rest, e.report = "Error: " ++ rest := by
  by_cases h : e = .mixedTargets
  · subst h
    exact Or.inl ⟨rfl, rfl⟩
  · have hreport : e.report = "Error: " ++ e.title ++ "\n" ++ causeLines e.causes := by
      unfold Failure.report
      split
      · contradiction
      · rfl
    have hcode : e.exitCode = 1 := by
      unfold Failure.exitCode
      split
      · contradiction
      · rfl
    refine Or.inr ⟨hcode, e.title ++ "\n" ++ causeLines e.causes, ?_⟩
    rw [hreport, String.append_assoc, String.append_assoc, String.append_assoc]

/-- Behind a report that puts nothing on the standard error stands the number of its problems if the
exit status is to tell of them and there are any. -/
theorem Outcome.ofReport_verdict (w : Workdir) (notices : List Notice) (o : CheckOptions)
    {r : Report} (h : o.format.stderr r = "") :
    let outcome := Outcome.ofReport w notices o r
    if o.setExitStatus ∧ 0 < r.problems.length then
      outcome.stderr = r.verdict ∧ outcome.exitCode = 1
    else outcome.stderr = "" ∧ outcome.exitCode = 0 := by
  have hclean : r.isClean = false ↔ 0 < r.problems.length := by
    rw [Report.isClean, List.isEmpty_eq_false_iff, List.length_pos_iff]
  have hfailing : (o.setExitStatus && !r.isClean) = true ↔
      o.setExitStatus ∧ 0 < r.problems.length := by
    rw [Bool.and_eq_true, Bool.not_eq_true', hclean]
  intro outcome
  have hstderr : outcome.stderr =
      if (o.setExitStatus && !r.isClean) = true then r.verdict else "" := by
    show o.format.stderr r ++ _ = _
    rw [h, String.empty_append]
  have hcode : outcome.exitCode = if (o.setExitStatus && !r.isClean) = true then 1 else 0 := rfl
  rw [hstderr, hcode]
  by_cases hcond : o.setExitStatus ∧ 0 < r.problems.length
  · rw [if_pos hcond, if_pos (hfailing.mpr hcond), if_pos (hfailing.mpr hcond)]
    exact ⟨rfl, rfl⟩
  · rw [if_neg hcond, if_neg fun h => hcond (hfailing.mp h), if_neg fun h => hcond (hfailing.mp h)]
    exact ⟨rfl, rfl⟩

namespace Workdir

variable {w : Workdir} {choice : ConfigChoice} {o : CheckOptions}

/-- Targets are said to be mixed only if they are. -/
theorem CheckTrouble.targets?_eq_none (h : w.CheckTrouble choice o .mixedTargets) :
    w.targets? o.paths = none := by
  generalize he : Failure.mixedTargets = e at h
  cases h with
  | config hconfig =>
    subst he
    unfold configFor readConfig at hconfig
    split at hconfig
    · cases hconfig
    · split at hconfig
      · cases hconfig
      · split at hconfig <;> cases hconfig
  | exclude _ hexcludes =>
    subst he
    unfold Config.excludes Except.mapError at hexcludes
    split at hexcludes <;> cases hexcludes
  | settings _ _ hsettings =>
    subst he
    unfold Config.linter Except.mapError at hsettings
    split at hsettings <;> cases hsettings
  | mixed _ hnone => exact hnone
  | source | package => cases he

/-- A check that fails prints nothing but the failure. -/
theorem runCheck_of_error {e : Failure} (h : (w.check choice o).result = .error e) :
    w.runCheck choice o = Outcome.ofFailure w (w.check choice o).notices e := by
  rw [runCheck, h]

/-- A check that finishes prints its report. -/
theorem runCheck_of_ok {r : Report} (h : (w.check choice o).result = .ok r) :
    w.runCheck choice o = Outcome.ofReport w (w.check choice o).notices o r := by
  rw [runCheck, h]

end Workdir

/-- What a command line that asks for a check comes to, in a format with records. The tree stays as
it is. If there is any trouble, with settings, targets, sources or packages, the standard output
stays empty and one trouble is reported: mixed targets with exit status 2, all else as an error with
exit status 1. If there is none, the standard output holds a record for each problem of all
packages, in order, and a line end behind each; and if the exit status is to tell of problems and
there are any, their number is told and it is 1, and otherwise 0. -/
theorem run_check (w : Workdir) {env : Environment} {args : List String} {i : Invocation}
    {o : CheckOptions} {record : Problem → String}
    (hargs : Invocation.ofArguments env.config args = .ok i) (hcheck : i.command = .check o)
    (hrecord : o.format.record? = some record) :
    (run w env args).workdir = w ∧
    ((∃ e, w.CheckTrouble ⟨i.config.map Path.mk, env.globalDir?⟩ o e ∧
      (run w env args).stdout = "" ∧ (run w env args).stderr = e.report ∧
      (w.targets? o.paths = none ∧ (run w env args).exitCode = 2 ∨
        (run w env args).exitCode = 1 ∧ ∃ rest, (run w env args).stderr = "Error: " ++ rest)) ∨
    (∀ e, ¬w.CheckTrouble ⟨i.config.map Path.mk, env.globalDir?⟩ o e) ∧
      ∃ excludes l targets reports,
        w.Settles ⟨i.config.map Path.mk, env.globalDir?⟩ o excludes l ∧
        w.targets? o.paths = some targets ∧
        List.Forall₂ (fun files r => l.lint files = .ok r) (w.surveyed excludes targets) reports ∧
        let problems := reports.flatMap Report.problems
        (run w env args).stdout = String.join (problems.map fun p => record p ++ "\n") ∧
        if o.setExitStatus ∧ 0 < problems.length then
          (run w env args).stderr =
              "Found " ++ toString problems.length ++ " lint suggestions; failing.\n" ∧
            (run w env args).exitCode = 1
        else (run w env args).stderr = "" ∧ (run w env args).exitCode = 0) := by
  have hrun : run w env args = w.runCheck ⟨i.config.map Path.mk, env.globalDir?⟩ o := by
    rw [run, hargs]
    dsimp only
    rw [hcheck]
  rw [hrun]
  rcases w.check_cases ⟨i.config.map Path.mk, env.globalDir?⟩ o with
    ⟨e, htrouble, hresult⟩ | ⟨hnone, excludes, l, targets, reports, hsettles, htargets, hlint,
      hresult⟩
  · rw [Workdir.runCheck_of_error hresult]
    refine ⟨rfl, Or.inl ⟨e, htrouble, rfl, rfl, ?_⟩⟩
    rcases e.report_cases with ⟨rfl, hcode⟩ | hother
    · exact Or.inl ⟨htrouble.targets?_eq_none, hcode⟩
    · exact Or.inr hother
  · rw [Workdir.runCheck_of_ok hresult]
    obtain ⟨hstdout, hstderr⟩ := Format.stdout_of_record hrecord (Report.concat reports)
    refine ⟨rfl, Or.inr ⟨hnone, excludes, l, targets, reports, hsettles, htargets, hlint, hstdout,
      ?_⟩⟩
    exact Outcome.ofReport_verdict w _ o hstderr

/-- A working directory with a Go file that can be read, and another whose bytes are no text. -/
def halfReadable : Workdir :=
  ⟨⟨[["good"], ["bad"]],
    [⟨["good", "a.go"], some "package a\n\nfunc A_b() {}\n"⟩, ⟨["bad", "b.go"], none⟩],
    by decide⟩, []⟩

/-- The file that is no text takes the problems of the other with it. -/
theorem run_check_halfReadable :
    let args := ["check", "--set-exit-status", "-f", "compact", "good", "bad"]
    let outcome := run halfReadable ⟨none, none, none⟩ args
    (∃ i o, Invocation.ofArguments none args = .ok i ∧ i.command = .check o ∧
      o.format = .compact) ∧
    outcome.workdir = halfReadable ∧ outcome.stdout = "" ∧ outcome.exitCode = 1 ∧
      ∃ rest, outcome.stderr = "Error: " ++ rest := by
  intro args outcome
  have hargs : Invocation.ofArguments none args =
      .ok ⟨none, .check ⟨["good", "bad"], none, true, .compact⟩⟩ := rfl
  refine ⟨⟨_, _, hargs, rfl, rfl⟩, ?_⟩
  have htargets : halfReadable.targets? ["good", "bad"] = some (.dirs [⟨"good"⟩, ⟨"bad"⟩]) := by
    decide
  obtain ⟨htree, ⟨e, -, hstdout, -, ⟨hnone, -⟩ | hcode⟩ | ⟨hnone, excludes, l, targets, reports,
    hsettles, htargets', -⟩⟩ := @run_check halfReadable ⟨none, none, none⟩ _ _ _ _ hargs rfl rfl
  · cases htargets.symm.trans hnone
  · exact ⟨htree, hstdout, hcode⟩
  · obtain rfl := Option.some.inj (htargets.symm.trans htargets')
    obtain ⟨config, hconfig, hexcludes, -⟩ := id hsettles
    obtain rfl : Config.default = config := Except.ok.inj hconfig
    obtain rfl : [] = excludes := Except.ok.inj hexcludes
    refine absurd (.source hsettles htargets (.unread (p := ⟨"bad/b.go"⟩) (e := .notText) ?_ ?_))
      (hnone _)
    · decide +kernel
    · decide

end GoStyle
