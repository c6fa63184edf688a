import GoStyle.Command.Check
import GoStyle.Decimal.Reading

/-!
# Command lines

A command line names a command, with options of the program in front of it and options of the
command and, for `check`, paths behind it. Arguments are read from left to right, and the first that
is wrong or asks for help ends the reading. An option of one letter may share a dash with others and
have its value directly behind it; a value never begins with a dash, and no option may be given
twice at one place.

The configuration may be named on either side of the command, that behind it counting, or by the
environment.
-/

namespace GoStyle

/-! ## Options -/

/-- An option. -/
inductive Flag where
  | verbose
  | config
  | minConfidence
  | setExitStatus
  | format
  | force
  | shortHelp
  | longHelp
  | version
deriving Repr, DecidableEq

/-- The long name of an option. -/
def Flag.name? : Flag → Option String
  | .verbose => some "verbose"
  | .config => some "config"
  | .minConfidence => some "min-confidence"
  | .setExitStatus => some "set-exit-status"
  | .format => some "format"
  | .force => some "force"
  | .shortHelp => none
  | .longHelp => some "help"
  | .version => some "version"

/-- The letter of an option. -/
def Flag.letter? : Flag → Option Char
  | .verbose => some 'v'
  | .config => some 'c'
  | .format => some 'f'
  | .shortHelp => some 'h'
  | .version => some 'V'
  | .minConfidence | .setExitStatus | .force | .longHelp => none

/-- Whether an option needs a value. -/
def Flag.takesValue : Flag → Bool
  | .config | .minConfidence | .format => true
  | _ => false

/-- The format of the given name. -/
def Format.ofName? : String → Option Format
  | "text" => some .text
  | "compact" => some .compact
  | "json" => some .json
  | "pretty" => some .pretty
  | _ => none

/-- Whether an option may have a value. -/
def Flag.admits (value : String) : Flag → Bool
  | .config => value != ""
  | .minConfidence => (readDouble? value).isSome
  | .format => (Format.ofName? value).isSome
  | _ => true

/-- A place for options: in front of the command, or behind it. -/
inductive Scope where
  | program
  | check
  | listRules
  | init
deriving Repr, DecidableEq

/-- The options of a place. -/
def Scope.flags : Scope → List Flag
  | .program => [.verbose, .config, .shortHelp, .longHelp, .version]
  | .check =>
    [.minConfidence, .setExitStatus, .format, .verbose, .config, .shortHelp, .longHelp]
  | .listRules => [.verbose, .config, .shortHelp, .longHelp]
  | .init => [.force, .verbose, .config, .shortHelp, .longHelp]

/-- The place behind the command of the given name. -/
def Scope.ofCommand? : String → Option Scope
  | "check" => some .check
  | "list-rules" => some .listRules
  | "init" => some .init
  | _ => none

/-! ## Answers without a command -/

/-- What help is about: a place for options, or the command that gives help. -/
inductive HelpTopic where
  | scope (s : Scope)
  | help
deriving Repr, DecidableEq

/-- What is wrong with a command line. -/
inductive UsageError where
  | noCommand
  | unknownCommand (name : String)
  | unexpected (arg : String)
  | repeated (flag : Flag)
  | noValue (flag : Flag)
  | badValue (flag : Flag) (value : String)
deriving Repr, DecidableEq

/-- The answer to a command line that runs no command. -/
inductive Reply where
  | help (topic : HelpTopic) (detailed : Bool)
  | version
  | usage (error : UsageError)
deriving Repr, DecidableEq

/-- An option as a user writes it. -/
def Flag.display (f : Flag) : String :=
  "--" ++ (f.name?.getD "help")

/-- The text of an error in a command line. -/
def UsageError.message : UsageError → String
  | .noCommand => "a command is required but none was given"
  | .unknownCommand name => "unrecognized command '" ++ name ++ "'"
  | .unexpected arg => "unexpected argument '" ++ arg ++ "'"
  | .repeated flag => "the option '" ++ flag.display ++ "' cannot be used twice"
  | .noValue flag => "a value is required for '" ++ flag.display ++ "' but none was given"
  | .badValue flag value => "invalid value '" ++ value ++ "' for '" ++ flag.display ++ "'"

/-! ## Reading options -/

/-- The options given at one place, each with its value if it has one, and the paths. -/
structure Given where
  options : List (Flag × String)
  paths : List String
deriving Repr, DecidableEq

/-- Nothing is given. -/
def Given.empty : Given :=
  ⟨[], []⟩

/-- Whether an option is given. -/
def Given.has (g : Given) (f : Flag) : Bool :=
  (g.options.lookup f).isSome

/-- One more option, if it can be added. -/
def Given.add (g : Given) (scope : Scope) (f : Flag) (value : String) : Except Reply Given :=
  match f with
  | .shortHelp => .error (.help (.scope scope) false)
  | .longHelp => .error (.help (.scope scope) true)
  | .version => .error .version
  | f =>
    if g.has f then .error (.usage (.repeated f))
    else if f.admits value then .ok { g with options := g.options ++ [(f, value)] }
    else .error (.usage (.badValue f value))

/-- Options and, if the last of them still lacks its value, that one. -/
abbrev Pending := Given × Option Flag

/-- Read what follows one dash. -/
def readLetters (scope : Scope) (g : Given) : List Char → Except Reply Pending
  | [] => .ok (g, none)
  | c :: s =>
    match scope.flags.find? fun f => f.letter? == some c with
    | none => .error (.usage (.unexpected (String.ofList ['-', c])))
    | some f =>
      if f.takesValue then
        match s with
        | [] => .ok (g, some f)
        | '=' :: value => (g.add scope f (String.ofList value)).map (·, none)
        | value => (g.add scope f (String.ofList value)).map (·, none)
      else
        match g.add scope f "" with
        | .error e => .error e
        | .ok g => readLetters scope g s

/-- Read what follows two dashes. -/
def readName (scope : Scope) (g : Given) (s : List Char) : Except Reply Pending :=
  let name := String.ofList (s.takeWhile (· != '='))
  match scope.flags.find? fun f => f.name? == some name, s.dropWhile (· != '=') with
  | none, _ => .error (.usage (.unexpected ("--" ++ name)))
  | some f, '=' :: value =>
    if f.takesValue then (g.add scope f (String.ofList value)).map (·, none)
    else .error (.usage (.unexpected (String.ofList value)))
  | some f, _ =>
    if f.takesValue then .ok (g, some f) else (g.add scope f "").map (·, none)

/-- Whether an argument is an option, or the two dashes after which there are none. -/
def isOption (arg : String) : Bool :=
  match arg.toList with
  | '-' :: _ :: _ => true
  | _ => false

/-- Read an option. -/
def readOption (scope : Scope) (g : Given) (arg : String) : Except Reply Pending :=
  match arg.toList with
  | '-' :: '-' :: s => readName scope g s
  | s => readLetters scope g (s.drop 1)

/-- Read arguments, the first of which may be the value of an option. At the place in front of the
command the first that is no option ends the reading, and the rest is left. -/
def readArguments (scope : Scope) :
    Option Flag → Given → List String → Except Reply (Given × List String)
  | some f, _, [] => .error (.usage (.noValue f))
  | some f, g, arg :: rest =>
    if isOption arg then .error (.usage (.noValue f))
    else
      match g.add scope f arg with
      | .error e => .error e
      | .ok g => readArguments scope none g rest
  | none, g, [] => .ok (g, [])
  | none, g, arg :: rest =>
    if arg = "--" then
      if scope = .check then .ok ({ g with paths := g.paths ++ rest }, [])
      else
        match rest with
        | [] => .ok (g, [])
        | arg :: _ => .error (.usage (.unexpected arg))
    else if isOption arg then
      match readOption scope g arg with
      | .error e => .error e
      | .ok (g, pending) => readArguments scope pending g rest
    else
      match scope with
      | .program => .ok (g, arg :: rest)
      | .check => readArguments scope none { g with paths := g.paths ++ [arg] } rest
      | .listRules | .init => .error (.usage (.unexpected arg))

/-! ## Invocations -/

/-- A command with what it needs to know. -/
inductive Command where
  | check (options : CheckOptions)
  | listRules
  | init (force : Bool)

/-- A command, and the configuration that was named. -/
structure Invocation where
  config : Option String
  command : Command

/-- The command with the given options. -/
def Given.command (g : Given) : Scope → Option Command
  | .program => none
  | .check =>
    some (.check
      { paths := g.paths
        minConfidence := (g.options.lookup .minConfidence).bind readDouble?
        setExitStatus := g.has .setExitStatus
        format := ((g.options.lookup .format).bind Format.ofName?).getD .text })
  | .listRules => some .listRules
  | .init => some (.init (g.has .force))

/-- The answer to a request for help on the commands of the given names. -/
def helpOn : List String → Reply
  | [] => .help (.scope .program) true
  | ["help"] => .help .help true
  | [name] =>
    match Scope.ofCommand? name with
    | some scope => .help (.scope scope) true
    | none => .usage (.unknownCommand name)
  | name :: other :: _ =>
    .usage (.unknownCommand (if (Scope.ofCommand? name).isSome then other else name))

/-- The configuration named at the two places or, failing that, by the environment. An empty name in
the environment is wrong unless both places name one. -/
def configName (inFront behind : Given) (fromEnvironment : Option String) :
    Except Reply (Option String) :=
  match behind.options.lookup .config, inFront.options.lookup .config with
  | some name, some _ => .ok (some name)
  | none, none =>
    if fromEnvironment = some "" then .error (.usage (.badValue .config ""))
    else .ok fromEnvironment
  | some name, none | none, some name =>
    if fromEnvironment = some "" then .error (.usage (.badValue .config "")) else .ok (some name)

/-- The invocation that a command line stands for. -/
def Invocation.ofArguments (fromEnvironment : Option String) (args : List String) :
    Except Reply Invocation :=
  match readArguments .program none Given.empty args with
  | .error e => .error e
  | .ok (_, []) => .error (.usage .noCommand)
  | .ok (_, "help" :: names) => .error (helpOn names)
  | .ok (inFront, name :: rest) =>
    match Scope.ofCommand? name with
    | none => .error (.usage (.unknownCommand name))
    | some scope =>
      match readArguments scope none Given.empty rest with
      | .error e => .error e
      | .ok (behind, _) =>
        match configName inFront behind fromEnvironment, behind.command scope with
        | .error e, _ => .error e
        | .ok _, none => .error (.usage (.unknownCommand name))
        | .ok config, some command => .ok ⟨config, command⟩

end GoStyle
