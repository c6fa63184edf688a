import GoStyle.Command.Arguments

/-!
# Help

The texts that explain commands and options. Options are listed with their letters and names on the
left and what they mean on the right, or below where that would be too wide.
-/

namespace GoStyle

/-- A text followed by spaces up to a width. -/
def padTo (width : Nat) (s : String) : String :=
  s ++ String.ofList (List.replicate (width - s.length) ' ')

/-- A line of a list: a term and what it means. -/
structure HelpEntry where
  term : String
  meaning : String
deriving Repr, DecidableEq

/-- Entries side by side with their meanings. -/
def besideTerms (entries : List HelpEntry) : String :=
  let width := entries.foldl (fun n e => max n e.term.length) 0
  String.join (entries.map fun e => "  " ++ padTo width e.term ++ "  " ++ e.meaning ++ "\n")

/-- Entries with their meanings below. -/
def belowTerms (gap : String) (entries : List HelpEntry) : String :=
  String.intercalate gap
    (entries.map fun e => "  " ++ e.term ++ "\n          " ++ e.meaning ++ "\n")

/-- The option that makes output verbose. -/
def verboseEntry : HelpEntry :=
  ⟨"-v, --verbose", "Enable verbose output"⟩

/-- The option that names a configuration, with what the environment says. -/
def configEntry (separator : String) (fromEnvironment : Option String) : HelpEntry :=
  ⟨"-c, --config <CONFIG>", "Path to configuration file" ++ separator ++
    "[env: GOLINT_CONFIG=" ++ fromEnvironment.getD "" ++ "]"⟩

/-- The option that asks for help. -/
def helpEntry (meaning : String) : HelpEntry :=
  ⟨"-h, --help", meaning⟩

/-- What the paths behind `check` mean. -/
def pathsMeaning : String :=
  "Directories (optionally ending in `/...`), files or import paths (default: current directory)"

/-- The options of `check`, in brief or in detail. -/
def checkEntries (detailed : Bool) (fromEnvironment : Option String) : List HelpEntry :=
  let margin := "\n\n          "
  [⟨"    --min-confidence <MIN_CONFIDENCE>",
      "Minimum confidence of a problem to print it [default: 0.8]"⟩,
    verboseEntry,
    configEntry (if detailed then margin else " ") fromEnvironment,
    ⟨"    --set-exit-status", "Exit with status 1 if any problem is found"⟩,
    ⟨"-f, --format <FORMAT>",
      if detailed then
        "Output format" ++ margin ++ "Possible values:\n" ++
        "          - text:    `path:line:col: text`, one problem per line\n" ++
        "          - compact: One line per problem with rule, category and confidence\n" ++
        "          - json:    JSON output\n" ++
        "          - pretty:  Annotated source snippets" ++ margin ++ "[default: text]"
      else "Output format [default: text] [possible values: text, compact, json, pretty]"⟩,
    helpEntry (if detailed then "Print help (see a summary with '-h')"
      else "Print help (see more with '--help')")]

/-- The commands. -/
def commandEntries : List HelpEntry :=
  [⟨"check", "Lint Go packages, directories or files"⟩,
    ⟨"list-rules", "List available rules"⟩,
    ⟨"init", "Initialize configuration file"⟩,
    ⟨"help", "Print this message or the help of the given subcommand(s)"⟩]

/-- The text of help. -/
def helpText (fromEnvironment : Option String) (detailed : Bool) : HelpTopic → String
  | .scope .program =>
    "Style linter for Go source code\n\nUsage: golint [OPTIONS] <COMMAND>\n\nCommands:\n" ++
      besideTerms commandEntries ++ "\nOptions:\n" ++
      besideTerms [verboseEntry, configEntry " " fromEnvironment, helpEntry "Print help",
        ⟨"-V, --version", "Print version"⟩]
  | .scope .check =>
    "Lint Go packages, directories or files\n\n" ++
      "Usage: golint check [OPTIONS] [PATHS]...\n\nArguments:\n" ++
      (if detailed then belowTerms "\n" [⟨"[PATHS]...", pathsMeaning⟩]
        else besideTerms [⟨"[PATHS]...", pathsMeaning⟩]) ++
      "\nOptions:\n" ++
      belowTerms (if detailed then "\n" else "") (checkEntries detailed fromEnvironment)
  | .scope .listRules =>
    "List available rules\n\nUsage: golint list-rules [OPTIONS]\n\nOptions:\n" ++
      besideTerms [verboseEntry, configEntry " " fromEnvironment, helpEntry "Print help"]
  | .scope .init =>
    "Initialize configuration file\n\nUsage: golint init [OPTIONS]\n\nOptions:\n" ++
      besideTerms [⟨"    --force", "Overwrite existing config"⟩, verboseEntry,
        configEntry " " fromEnvironment, helpEntry "Print help"]
  | .help =>
    "Print this message or the help of the given subcommand(s)\n\n" ++
      "Usage: golint help [COMMAND]\n\nCommands:\n" ++ besideTerms commandEntries

end GoStyle
