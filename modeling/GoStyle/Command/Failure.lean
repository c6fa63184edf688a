import GoStyle.Lint.Linter
import GoStyle.Tree.GoFiles

/-!
# Failures of a command

Why a command could not do what it was asked to do. `Failure.exitCode` and `Failure.report` are what
the user gets: a title, and under it the causes, numbered if there are several.
-/

namespace GoStyle

/-- The name of the configuration file that a new project gets. -/
def newConfigName : String :=
  "golint.toml"

/-- Why a command failed. -/
inductive Failure where
  | mixedTargets
  | unreadableConfig (path : Path) (fault : FileFault)
  | malformedConfig (path : Path)
  | malformedExclude (pattern : String)
  | unusableSettings (error : LintError)
  | unreadableSource (fault : ReadFault)
  | unusablePackage (name : String) (error : LintError)
  | configExists
  | unwritableConfig (fault : FileFault)

/-- The title of a failure. -/
def Failure.title : Failure → String
  | .mixedTargets => "golint: directory, file and import path arguments cannot be mixed"
  | .unreadableConfig path _ | .malformedConfig path => "Failed to load config: " ++ path.text
  | .malformedExclude pattern => "Invalid exclude pattern: " ++ pattern
  | .unusableSettings _ => "Failed to build linter"
  | .unreadableSource fault => fault.message
  | .unusablePackage name _ => "Failed to lint package " ++ name
  | .configExists =>
    "Configuration file already exists at " ++ newConfigName ++ ". Use --force to overwrite."
  | .unwritableConfig _ => "Failed to write " ++ newConfigName

/-- The causes of an error, outermost first. -/
def LintError.causes : LintError → List String
  | .badMarker pattern =>
    let cause := "Invalid generated marker pattern `" ++ pattern ++ "`: regex parse error"
    ["Configuration error: " ++ cause, cause]
  | e => [e.message]

/-- The causes of a failure, outermost first. -/
def Failure.causes : Failure → List String
  | .mixedTargets | .configExists => []
  | .unreadableConfig path fault =>
    ["Failed to read config file " ++ path.text ++ ": " ++ fault.message, fault.message]
  | .malformedConfig _ => ["Failed to parse config: TOML parse error"]
  | .malformedExclude _ => ["Pattern syntax error"]
  | .unusableSettings error | .unusablePackage _ error => error.causes
  | .unreadableSource fault => [fault.fault.message]
  | .unwritableConfig fault => [fault.message]

/-- The exit status of a failure: 2 for a wrong call, 1 for all else. -/
def Failure.exitCode : Failure → Nat
  | .mixedTargets => 2
  | _ => 1

/-- A text whose lines after the first are indented. -/
def hanging (indentation s : String) : String :=
  s.replace "\n" ("\n" ++ indentation)

/-- Causes as numbered lines. -/
def numberedCauses : Nat → List String → String
  | _, [] => ""
  | n, c :: cs =>
    "    " ++ toString n ++ ": " ++ hanging "       " c ++ "\n" ++ numberedCauses (n + 1) cs

/-- Causes as lines under a heading of their own. -/
def causeLines : List String → String
  | [] => ""
  | [c] => "\nCaused by:\n    " ++ hanging "    " c ++ "\n"
  | cs => "\nCaused by:\n" ++ numberedCauses 0 cs

/-- How targets may be given. -/
def targetUsage : String :=
  "Usage:\n" ++
  "\tgolint check [flags] # runs on package in current directory\n" ++
  "\tgolint check [flags] [directories] # where a '/...' suffix includes all sub-directories\n" ++
  "\tgolint check [flags] [files] # all must belong to a single package\n"

/-- What the user is told about a failure. -/
def Failure.report : Failure → String
  | .mixedTargets => Failure.mixedTargets.title ++ "\n" ++ targetUsage
  | e => "Error: " ++ e.title ++ "\n" ++ causeLines e.causes

end GoStyle
