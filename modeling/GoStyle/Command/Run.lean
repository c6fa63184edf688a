import GoStyle.Command.Help

/-!
# Running commands

`run` is the program: from a working directory, an environment and a command line to an outcome,
which is an exit status, what goes to the two outputs, the notices, and the tree as it is
afterwards. Only `init` changes the tree, and only one file of it.
-/

namespace GoStyle

/-! ## Environments and outcomes -/

/-- The variables that the program looks at. -/
structure Environment where
  config : Option String
  configDir : Option String
  home : Option String
deriving Repr, DecidableEq

/-- The environment in which variables have the given values. -/
def Environment.ofLookup (value : String → Option String) : Environment :=
  ⟨value "GOLINT_CONFIG", value "GOLINT_CONFIG_DIR", value "HOME"⟩

/-- The user's own configuration directory. -/
def Environment.globalDir? (env : Environment) : Option Path :=
  match env.configDir with
  | some dir => some ⟨dir⟩
  | none => env.home.map fun home => Path.join ⟨home⟩ ".golint"

/-- What running a command leads to. -/
structure Outcome where
  exitCode : Nat
  stdout : String
  stderr : String
  notices : List Notice
  workdir : Workdir

/-- The outcome of a command that did what it was asked to do. -/
def Outcome.success (w : Workdir) (stdout : String) : Outcome :=
  ⟨0, stdout, "", [], w⟩

/-- The outcome of a command that failed. -/
def Outcome.ofFailure (w : Workdir) (notices : List Notice) (e : Failure) : Outcome :=
  ⟨e.exitCode, "", e.report, notices, w⟩

/-! ## Checking -/

/-- The outcome of a finished check. -/
def Outcome.ofReport (w : Workdir) (notices : List Notice) (o : CheckOptions) (r : Report) :
    Outcome :=
  let failing := o.setExitStatus && !r.isClean
  ⟨if failing then 1 else 0, o.format.stdout r,
    o.format.stderr r ++ (if failing then r.verdict else ""), notices, w⟩

/-- Check sources and print the report. -/
def Workdir.runCheck (w : Workdir) (choice : ConfigChoice) (o : CheckOptions) : Outcome :=
  let checked := w.check choice o
  match checked.result with
  | .ok r => Outcome.ofReport w checked.notices o r
  | .error e => Outcome.ofFailure w checked.notices e

/-! ## Listing rules -/

/-- A row of the list of rules. -/
def ruleRow (name category description : String) : String :=
  padTo 20 name ++ " " ++ padTo 10 category ++ " " ++ description ++ "\n"

/-- The list of rules. -/
def ruleList : String :=
  "Available rules:\n\n" ++ ruleRow "Name" "Category" "Description" ++
    String.ofList (List.replicate 80 '-') ++ "\n" ++
    String.join (defaultRules.map fun r => ruleRow r.name r.category r.description) ++
    "\nProblems below the minimum confidence are hidden, e.g.:\n" ++
    "  golint check --min-confidence 0.3 ./...\n"

/-! ## Setting up a project -/

/-- The configuration that a new project gets: the defaults, with comments. -/
def newConfigText : String :=
  "# golint configuration\n\n" ++
  "# Problems below this confidence are not reported, in (0, 1].\n" ++
  "min_confidence = 0.8\n\n" ++
  "[policy]\n" ++
  "# Identifiers exempt from naming and stutter checks.\n" ++
  "known_name_exceptions = [\"LastInsertId\", \"kWh\"]\n\n" ++
  "# Leading comment lines matching any of these mark a file as generated.\n" ++
  "generated_markers = ['^// Code generated .* DO NOT EDIT\\.$']\n\n" ++
  "[discovery]\n" ++
  "# Glob patterns of files to skip.\n" ++
  "exclude = [\n    # \"**/mocks/**\",\n]\n"

/-- What is said about a new configuration file. -/
def newConfigAdvice : String :=
  "Created " ++ newConfigName ++ "\n\nNext steps:\n" ++
  "  1. Edit " ++ newConfigName ++ " to adjust the policy\n" ++
  "  2. Run: golint check ./...\n"

/-- Write a configuration file, over an existing one only by force. -/
def Workdir.runInit (w : Workdir) (force : Bool) : Outcome :=
  if w.has ⟨newConfigName⟩ && !force then Outcome.ofFailure w [] .configExists
  else
    match w.write newConfigName newConfigText with
    | .ok w => Outcome.success w newConfigAdvice
    | .error e => Outcome.ofFailure w [] (.unwritableConfig e)

/-! ## The program -/

/-- The name and number of this version. -/
def versionLine : String :=
  "golint 0.1.0\n"

/-- The outcome of a command line that runs no command. -/
def Outcome.ofReply (w : Workdir) (env : Environment) : Reply → Outcome
  | .help topic detailed => Outcome.success w (helpText env.config detailed topic)
  | .version => Outcome.success w versionLine
  | .usage e =>
    ⟨2, "", "error: " ++ e.message ++ "\n\nFor more information, try '--help'.\n", [], w⟩

/-- Run a command line in a working directory. -/
def run (w : Workdir) (env : Environment) (args : List String) : Outcome :=
  match Invocation.ofArguments env.config args with
  | .error reply => Outcome.ofReply w env reply
  | .ok i =>
    match i.command with
    | .check o => w.runCheck ⟨i.config.map Path.mk, env.globalDir?⟩ o
    | .listRules => Outcome.success w ruleList
    | .init force => w.runInit force

end GoStyle
