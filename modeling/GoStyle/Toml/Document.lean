import GoStyle.Toml.Scalar

/-!
# TOML documents

A document is a list of lines: blank ones, headers of tables, and keys with values.
`TomlDocument.ofText?` gives the entries of the outermost table, and has no answer for a text that
is no document.
-/

namespace GoStyle

namespace Toml

/-- Skip a comment if one comes next; it runs to the end of the line. -/
def skipComment : TomlReader Unit := do
  if ← nextIs (· == '#') then discard (takeWhile isPlain)

/-- Skip white space, comments and the ends of lines. -/
def skipAll : Nat → TomlReader Unit
  | 0 => return ()
  | limit + 1 => do
    skipSpace
    skipComment
    if ← takeNewline then skipAll limit
    else if ← nextIs (fun c => isSpace c || c == '#') then skipAll limit
    else return ()

/-- The values of an array, after its opening bracket. -/
def readArray (item : TomlReader TomlValue) : Nat → TomlReader (List TomlValue)
  | 0 => failure
  | limit + 1 => do
    skipAll (limit + 1)
    if ← takeIf "]" then return []
    let v ← item
    skipAll (limit + 1)
    if ← takeIf "," then return v :: (← readArray item limit)
    expect "]"
    return [v]

/-- The entries of a table on one line, after its opening brace; `es` are those before. -/
def readInline (item : TomlReader TomlValue) : Nat → TomlEntries → TomlReader TomlEntries
  | 0, _ => failure
  | limit + 1, es => do
    let (path, key) ← readKey
    expect "="
    skipSpace
    let v ← item
    skipSpace
    let some es := TomlEntries.set? key v path es | failure
    if ← takeIf "," then readInline item limit es
    else
      expect "\x7d"
      return es

/-- A value in which arrays and tables stand inside each other less than `depth` times. -/
def readValue : Nat → TomlReader TomlValue
  | 0 => failure
  | depth + 1 => do
    let s ← get
    let limit := s.length + 1
    match s with
    | '"' :: _ | '\'' :: _ => return .str (← readString)
    | '[' :: _ =>
      if depth = 0 then failure
      let _ ← take
      return .array (← readArray (readValue depth) limit)
    | '\x7b' :: _ =>
      if depth = 0 then failure
      let _ ← take
      skipSpace
      if ← takeIf "\x7d" then return .table []
      return .table (entriesValue (← readInline (readValue depth) limit []))
    | 't' :: _ | 'f' :: _ => readBool
    | _ => readNumber

/-- The end of a line or of the document, with white space and a comment before it. -/
def endLine : TomlReader Unit := do
  skipSpace
  skipComment
  unless ← takeNewline do
    unless (← get).isEmpty do failure

/-- The lines of a document, of which at most `limit` are left. `path` leads to the table that the
next keys belong to, and `es` is what has been read. -/
def readLines : Nat → List String → TomlEntries → TomlReader TomlEntries
  | 0, _, _ => failure
  | limit + 1, path, es => do
    skipSpace
    if (← get).isEmpty then return es
    else if ← nextIs (fun c => c == '#' || c == '\n' || c == '\r') then
      endLine
      readLines limit path es
    else if ← takeIf "[[" then
      let (outer, last) ← readKey
      expect "]]"
      endLine
      let some es := TomlEntries.openItem? outer last es | failure
      readLines limit (outer ++ [last]) es
    else if ← takeIf "[" then
      let (outer, last) ← readKey
      expect "]"
      endLine
      let some es := TomlEntries.open? outer last es | failure
      readLines limit (outer ++ [last]) es
    else
      let (outer, key) ← readKey
      expect "="
      skipSpace
      let v ← readValue (maxDepth + 1)
      endLine
      let some es := TomlEntries.within? (TomlEntries.set? key v outer) path es | failure
      readLines limit path es

/-- The mark of the encoding with which a document may begin. -/
def withoutMark : List Char → List Char
  | [] => []
  | c :: s => if c.toNat = 0xFEFF then s else c :: s

/-- The entries of the outermost table of a document. -/
def ofText? (text : String) : Option (List (String × TomlValue)) :=
  let s := withoutMark text.toList
  ((readLines (s.length + 1) [] []).run' s).map entriesValue

end Toml

end GoStyle
