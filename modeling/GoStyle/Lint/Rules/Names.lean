import GoStyle.Lint.MixedCaps
import GoStyle.Text.Affix

/-!
# Names

Names are written in mixed caps: `maxSize`, not `max_size` or `MAX_SIZE` or `kMaxSize`, and
`userID`, not `userId`. The name of a package has neither underscores, an ending `_test` apart, nor
capitals. Functions that the testing tool finds by their names are left alone in test files.
-/

namespace GoStyle

/-! ## Package names -/

/-- What is wrong with the name of the package. -/
def FileContext.packageNameFaults (c : FileContext) : List Problem :=
  let name := c.packageName
  let fault := fun text =>
    (c.problem c.file.packagePos 1.0 namingCategory text).withLink (effectiveGo "package-names")
  (if name.toList.contains '_' && !endsWith "_test" name then
    [fault "don't use an underscore in package name"]
  else []) ++
  (if name.toList.any isAsciiUpper then
    [fault ("don't use MixedCaps in package name; " ++ name ++ " should be " ++
      String.ofList (toLower name.toList))]
  else [])

/-! ## Identifiers -/

/-- Whether a name is written in capitals: five characters or more, at least two of them capitals,
an underscore among them, and digits at most besides. -/
def isAllCaps (s : List Char) : Bool :=
  5 ≤ s.length && s.contains '_' &&
    s.all (fun c => isAsciiUpper c || isAsciiDigit c || c == '_') &&
    2 ≤ (s.filter isAsciiUpper).length

/-- The name that follows a leading `k`, with its capital made small. -/
def afterLeadingK? : List Char → Option (List Char)
  | 'k' :: c :: d :: s => if isAsciiUpper c then some (asciiLower c :: d :: s) else none
  | _ => none

/-- Whether an underscore stands after the first character. -/
def hasInnerUnderscore (s : List Char) : Bool :=
  s.tail.contains '_'

/-- A line in which the name that begins at the given column, counted in bytes from 1, is replaced;
none if the name does not stand there. -/
def replaceAt? (line : String) (column : Nat) (name new : String) : Option String :=
  match column with
  | 0 => none
  | start + 1 =>
    match splitBytes? start line.toList with
    | none => none
    | some (before, rest) =>
      (after? name.toList rest).map fun rest => String.ofList (before ++ new.toList ++ rest)

/-- The problem with a name that should be another. -/
def FileContext.renaming (c : FileContext) (thing : String) (id : Ident) (new : String) : Problem :=
  let advice := thing ++ " " ++ id.name ++ " should be " ++ new
  let problem :=
    if 2 < id.name.utf8ByteSize && hasInnerUnderscore id.name.toList then
      (c.problem id.pos 0.9 namingCategory
        ("don't use underscores in Go names; " ++ advice)).withLink (effectiveGo "mixed-caps")
    else (c.problem id.pos 0.8 namingCategory advice).withLink (reviewGuide "initialisms")
  { problem with replacement := replaceAt? (c.file.line id.pos.line) id.pos.column id.name new }

/-- The problem with a value whose name has a leading `k`. -/
def FileContext.leadingK (c : FileContext) (kind : ValueKind) (id : Ident) : Option Problem :=
  (afterLeadingK? id.name.toList).map fun new =>
    (c.problem id.pos 0.8 namingCategory
      ("don't use leading k in Go names; " ++ kind.keyword ++ " " ++ id.name ++ " should be " ++
        String.ofList new)).withLink (reviewGuide "mixed-caps")

/-- What is wrong with a name; `kind?` is given for the names of values. -/
def FileContext.nameFaults (c : FileContext) (thing : String) (kind? : Option ValueKind)
    (id : Ident) : Except RuleFault (List Problem) :=
  if id.name = "_" ∨ c.policy.isKnownException id.name then .ok []
  else if isAllCaps id.name.toList then
    .ok [(c.problem id.pos 0.8 namingCategory
      "don't use ALL_CAPS in Go names; use CamelCase").withLink (reviewGuide "mixed-caps")]
  else
    let first := (kind?.bind fun kind => c.leadingK kind id).toList
    match mixedCaps id.name.toList with
    | .error e => .error e
    | .ok new =>
      if new = id.name.toList then .ok first
      else .ok (first ++ [c.renaming thing id (String.ofList new)])

/-! ## Declarations -/

/-- Whether the testing tool gives a meaning to functions of this name. -/
def isTestFuncName (name : String) : Bool :=
  beginsWith "Test" name || beginsWith "Benchmark" name || beginsWith "Example" name

/-- What is wrong with the names of a list, one after the other, up to the first fault. -/
def collectFaults (check : Ident → Except RuleFault (List Problem)) :
    List Ident → Except RuleFault (List Problem)
  | [] => .ok []
  | id :: ids =>
    match check id with
    | .error e => .error e
    | .ok found =>
      match collectFaults check ids with
      | .error e => .error e
      | .ok more => .ok (found ++ more)

/-- What is wrong with the names of a declaration. -/
def FileContext.declNameFaults (c : FileContext) : Decl → Except RuleFault (List Problem)
  | .type d => collectFaults (c.nameFaults "type" none) (d.specs.map (·.name))
  | .func f =>
    if c.file.isTest && isTestFuncName f.name.name then .ok []
    else c.nameFaults (if f.isMethod then "method" else "func") none f.name
  | .value d =>
    collectFaults (c.nameFaults d.kind.keyword (some d.kind)) (d.specs.flatMap (·.names))

/-- What is wrong with the names of some declarations, up to the first fault. -/
def FileContext.declsNameFaults (c : FileContext) : List Decl → Except RuleFault (List Problem)
  | [] => .ok []
  | d :: ds =>
    match c.declNameFaults d with
    | .error e => .error e
    | .ok found =>
      match c.declsNameFaults ds with
      | .error e => .error e
      | .ok more => .ok (found ++ more)

/-- What is wrong with the names of a file, that of its package first. -/
def FileContext.names (c : FileContext) : Except RuleFault (List Problem) :=
  match c.declsNameFaults c.file.decls with
  | .error e => .error e
  | .ok found => .ok (c.packageNameFaults ++ found)

/-- The rule on names. -/
def namesRule : Rule where
  name := "names"
  category := namingCategory
  description := "Enforces MixedCaps names with consistent initialisms"
  skipsGenerated := true
  check := fun c s => (c.names, s)

end GoStyle
