import GoStyle.Command.Noted
import GoStyle.Config.Lookup
import GoStyle.Config.Reading
import GoStyle.Lint.DefaultRules
import GoStyle.Lint.Record
import GoStyle.Pattern.Glob
import GoStyle.Source.Grouping
import GoStyle.Target

/-!
# Checking sources

`check` finds the configuration, builds the linter, turns the targets into packages and lints them
all. The result is one report on all packages or a failure, never both: nothing is printed before
every package has been looked at. `Format.stdout` and `Format.stderr` are the forms of a report.
-/

namespace GoStyle

/-! ## Settings -/

/-- The form in which a report is printed. -/
inductive Format where
  | text
  | compact
  | json
  | pretty
deriving Repr, DecidableEq

/-- What the user asks for. -/
structure CheckOptions where
  paths : List String
  minConfidence : Option Float
  setExitStatus : Bool
  format : Format

/-- Where configurations are looked for beside the sources: a path that is given explicitly, and the
user's own directory. -/
structure ConfigChoice where
  explicit : Option Path
  globalDir : Option Path
deriving Repr, DecidableEq

/-- The configuration that a source holds. -/
def Workdir.readConfig (w : Workdir) (source : ConfigSource) : Except Failure Config :=
  match source.path? with
  | none => .ok Config.default
  | some p =>
    match w.read p with
    | .error e => .error (.unreadableConfig p e)
    | .ok text =>
      match Config.ofText? text with
      | none => .error (.malformedConfig p)
      | some c => .ok c

/-- The patterns of the files to leave out. -/
def Config.excludes (c : Config) : Except Failure (List Glob) :=
  (readGlobs c.exclude).mapError Failure.malformedExclude

/-- The linter with all rules. -/
def Config.linter (c : Config) (minConfidence : Option Float) : Except Failure Linter :=
  (Linter.build defaultRules c none minConfidence).mapError Failure.unusableSettings

/-! ## Packages -/

/-- The packages in directories, one directory after the other. -/
def Workdir.packagesIn (w : Workdir) (excludes : List Glob) :
    List Path → Noted (List (List SourceFile))
  | [] => .done []
  | dir :: dirs => do
    let paths ← Noted.ofExcept ((w.goFilesIn dir).mapError Failure.unreadableSource)
    let files ← w.load (paths.filter fun p => !isExcluded excludes p)
    let more ← w.packagesIn excludes dirs
    return (groupPackages files).map PackageFiles.files ++ more

/-- The packages that targets stand for. Files that are named make up one package. -/
def Workdir.packages (w : Workdir) (excludes : List Glob) : Targets → Noted (List (List SourceFile))
  | .dirs dirs => w.packagesIn excludes dirs
  | .files paths => do
    let files ← w.load (paths.filter fun p => !isExcluded excludes p)
    return if files.isEmpty then [] else [files]
  | .packages names => (Noted.done []).noting (names.map Notice.packageNotFound)

/-! ## Linting -/

/-- The notices of the rules that had a fault on a package. -/
def Linter.faults (l : Linter) (files : List SourceFile) : List Notice :=
  ((l.runs files).filter Run.isFaulty).map fun r => .faultyRule r.rule r.path

/-- The name of the package to which the first file belongs. -/
def packageNameOf (files : List SourceFile) : String :=
  match files with
  | [] => ""
  | f :: _ => f.package.name

/-- The report on one package. -/
def Linter.checkPackage (l : Linter) (files : List SourceFile) : Noted Report :=
  match l.lint files with
  | .error e => .failed (.unusablePackage (packageNameOf files) e)
  | .ok report => (Noted.done report).noting (l.faults files)

/-- The report on packages, one after the other. -/
def Linter.checkPackages (l : Linter) : List (List SourceFile) → Noted Report
  | [] => .done Report.empty
  | files :: packages => do
    let report ← l.checkPackage files
    let more ← l.checkPackages packages
    return report.append more

/-- The report on what the user asks for. -/
def Workdir.check (w : Workdir) (choice : ConfigChoice) (o : CheckOptions) : Noted Report := do
  let source := w.findConfig (w.configRoot o.paths) choice.explicit choice.globalDir
  let config ← Noted.ofExcept (w.readConfig source)
  let excludes ← Noted.ofExcept config.excludes
  let linter ← Noted.ofExcept (config.linter o.minConfidence)
  match w.targets? o.paths with
  | none => .failed .mixedTargets
  | some targets =>
    let packages ← w.packages excludes targets
    linter.checkPackages packages

/-! ## Printing -/

/-- A record for each problem, with a line end behind it. -/
def recordLines (record : Problem → String) (problems : List Problem) : String :=
  String.join (problems.map fun p => record p ++ "\n")

/-- What a report puts on the standard output. -/
def Format.stdout (r : Report) : Format → String
  | .text => recordLines Problem.line r.problems
  | .compact => recordLines Problem.compactLine r.problems
  | .json => r.toJson.pretty 0 ++ "\n"
  | .pretty => recordLines (fun p => p.verbose ++ "\n") r.problems

/-- The number of problems, in each category and overall, in yellow or, if there are none, in green.
-/
def Report.summary (r : Report) : String :=
  let counts := r.countByCategory.map fun (category, n) => toString n ++ " " ++ category
  (if r.isClean then "\x1b[32m" else "\x1b[33m") ++
    "Found " ++ toString r.problems.length ++ " problem(s)" ++
    (if counts.isEmpty then "" else " (" ++ String.intercalate ", " counts ++ ")") ++
    " in " ++ toString r.filesChecked ++ " file(s)\x1b[0m\n"

/-- What a report puts on the standard error. -/
def Format.stderr (r : Report) : Format → String
  | .pretty => r.summary
  | _ => ""

/-- What is said when problems make the exit status that of a failure. -/
def Report.verdict (r : Report) : String :=
  "Found " ++ toString r.problems.length ++ " lint suggestions; failing.\n"

end GoStyle
