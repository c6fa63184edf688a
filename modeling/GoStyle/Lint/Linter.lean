import GoStyle.Config
import GoStyle.Lint.Collector
import GoStyle.Lint.Confidence
import GoStyle.Lint.Report
import GoStyle.Lint.Rule

/-!
# The linter

A linter runs its rules over the files of one package, file by file and on each file rule by rule,
and collects what they find. `Linter.runs` is that sequence of outcomes; `Linter.lintUnfiltered`
collects the problems of the runs that had no fault, and `Linter.lint` keeps those that reach the
threshold. A rule that stays silent on generated files is not run on them.
-/

namespace GoStyle

/-! ## Building -/

/-- Why files cannot be looked at. -/
inductive LintError where
  | invalidConfidence (value : Float)
  | mixedPackages (first second : String)
  | badMarker (pattern : String)

/-- The text of an error. -/
def LintError.message : LintError → String
  | .invalidConfidence value => "minimum confidence must be in (0, 1], got " ++ plainText value
  | .mixedPackages first second =>
    "found packages " ++ first ++ " and " ++ second ++
      "; all files must belong to a single package"
  | .badMarker pattern =>
    "Configuration error: Invalid generated marker pattern `" ++ pattern ++ "`: regex parse error"

/-- Rules, a policy and a threshold. -/
structure Linter where
  rules : List Rule
  policy : Policy
  minConfidence : MinConfidence

/-- The linter with the given rules. A policy or a threshold that is not given is that of the
configuration; the threshold is looked at first. -/
def Linter.build (rules : List Rule) (config : Config) (policy : Option Policy)
    (minConfidence : Option Float) : Except LintError Linter :=
  let value := minConfidence.getD config.effectiveConfidence
  match MinConfidence.ofFloat? value with
  | none => .error (.invalidConfidence value)
  | some m =>
    match policy with
    | some p => .ok ⟨rules, p, m⟩
    | none =>
      match config.policy.compile with
      | .ok p => .ok ⟨rules, p, m⟩
      | .error pattern => .error (.badMarker pattern)

/-! ## Running -/

/-- The outcome of a rule on a file. -/
structure Run where
  rule : String
  path : Path
  outcome : Except RuleFault (List Problem)

/-- The problems of a run, marked with the rule; a fault leaves none. -/
def Run.problems (r : Run) : List Problem :=
  match r.outcome with
  | .ok ps => ps.map fun p => { p with rule := r.rule }
  | .error _ => []

/-- Whether the run had a fault. -/
def Run.isFaulty (r : Run) : Bool :=
  match r.outcome with
  | .ok _ => false
  | .error _ => true

/-- The outcomes of rules on a file, and the notes afterwards. -/
def runRules (c : FileContext) : List Rule → PassState → List Run × PassState
  | [], s => ([], s)
  | r :: rs, s =>
    if r.skipsGenerated && c.isGenerated then runRules c rs s
    else
      let (outcome, s) := r.check c s
      let (more, s) := runRules c rs s
      (⟨r.name, c.file.path, outcome⟩ :: more, s)

/-- The outcomes of rules on files, the first of which has index `n`. -/
def runFiles (package : PackageContext) (policy : Policy) (rules : List Rule) :
    Nat → List SourceFile → PassState → List Run
  | _, [], _ => []
  | n, f :: fs, s =>
    let (found, s) := runRules ⟨f, n, package, policy⟩ rules s
    found ++ runFiles package policy rules (n + 1) fs s

/-- The outcomes of all rules on all files. -/
def Linter.runs (l : Linter) (files : List SourceFile) : List Run :=
  runFiles (PackageContext.build files l.policy) l.policy l.rules 0 files PassState.empty

/-- The names of two packages to which the files belong, the first file's and the first other. -/
def mixedPackages? (files : List SourceFile) : Option (String × String) :=
  match files with
  | [] => none
  | f :: fs =>
    (fs.find? fun g => g.package.name != f.package.name).map fun g =>
      (f.package.name, g.package.name)

/-- The ordered problems of a package, whatever their confidence. -/
def Linter.lintUnfiltered (l : Linter) (files : List SourceFile) :
    Except LintError (List Problem) :=
  match mixedPackages? files with
  | some (first, second) => .error (.mixedPackages first second)
  | none => .ok (collect ((l.runs files).flatMap Run.problems))

/-- The report on a package. -/
def Linter.lint (l : Linter) (files : List SourceFile) : Except LintError Report :=
  match l.lintUnfiltered files with
  | .error e => .error e
  | .ok ps => .ok ⟨l.minConfidence.filter ps, files.length⟩

end GoStyle
