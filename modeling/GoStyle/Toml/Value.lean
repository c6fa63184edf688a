/-!
# TOML values and tables

A document is built entry by entry. A table of it remembers how it came about (`TableKind`): by a
header of its own, by the way as part of a longer header, or by a key with dots. Tables that a
header has opened cannot be opened again, nor can keys with dots reach into them from outside, so
the same table is never defined in two places. `TomlEntries.open?`, `openItem?` and `set?` fail
where a document would break these rules.
-/

namespace GoStyle

/-- A value of a document. What a date says does not matter here. -/
inductive TomlValue where
  | str (s : String)
  | int (n : Int)
  | float (x : Float)
  | bool (b : Bool)
  | date
  | array (items : List TomlValue)
  | table (entries : List (String × TomlValue))

/-- How a table came about. -/
inductive TableKind where
  /-- By a header of its own. -/
  | opened
  /-- On the way to a table with a header. -/
  | passed
  /-- By a key with dots. -/
  | dotted
deriving Repr, DecidableEq

/-- What a key stands for in a document: a value, a table, or a list of tables. -/
inductive TomlNode where
  | leaf (v : TomlValue)
  | table (kind : TableKind) (entries : List (String × TomlNode))
  | tables (items : List (List (String × TomlNode)))

/-- The entries of a table that is being built. -/
abbrev TomlEntries :=
  List (String × TomlNode)

/-- Change what a key stands for; a key that is new goes to the end. -/
def TomlEntries.alter? (key : String) (f : Option TomlNode → Option TomlNode) :
    TomlEntries → Option TomlEntries
  | [] => (f none).map fun n => [(key, n)]
  | (k, n) :: es =>
    if k = key then (f (some n)).map fun n => (k, n) :: es
    else (alter? key f es).map ((k, n) :: ·)

/-- Change the last of several tables. -/
def alterLast? (f : TomlEntries → Option TomlEntries) :
    List TomlEntries → Option (List TomlEntries)
  | [] => none
  | [t] => (f t).map ([·])
  | t :: ts => (alterLast? f ts).map (t :: ·)

/-- Change the entries of the table that a path leads to, the last one where it leads to several.
Tables that are missing on the way are made. -/
def TomlEntries.within? (f : TomlEntries → Option TomlEntries) :
    List String → TomlEntries → Option TomlEntries
  | [], es => f es
  | key :: path, es =>
    alter? key (fun
      | none => (within? f path []).map (.table .passed)
      | some (.table kind sub) => (within? f path sub).map (.table kind)
      | some (.tables items) => (alterLast? (within? f path) items).map .tables
      | some (.leaf _) => none) es

/-- Open the table with the given path, the last key of which is given apart. -/
def TomlEntries.open? (path : List String) (last : String) (es : TomlEntries) :
    Option TomlEntries :=
  within? (alter? last fun
    | none => some (.table .opened [])
    | some (.table .passed sub) => some (.table .opened sub)
    | some _ => none) path es

/-- Open one more table in the list of tables with the given path. -/
def TomlEntries.openItem? (path : List String) (last : String) (es : TomlEntries) :
    Option TomlEntries :=
  within? (alter? last fun
    | none => some (.tables [[]])
    | some (.tables items) => some (.tables (items ++ [[]]))
    | some _ => none) path es

/-- Set a new key. -/
def TomlEntries.insert? (key : String) (v : TomlValue) (es : TomlEntries) : Option TomlEntries :=
  alter? key (fun
    | none => some (.leaf v)
    | some _ => none) es

/-- Set a key that is reached by the given keys, which stood before it with dots between them. -/
def TomlEntries.set? (key : String) (v : TomlValue) : List String → TomlEntries → Option TomlEntries
  | [], es => insert? key v es
  | [table], es =>
    alter? table (fun
      | none => (insert? key v []).map (.table .dotted)
      | some (.table .dotted sub) => (insert? key v sub).map (.table .dotted)
      | some _ => none) es
  | table :: path, es =>
    alter? table (fun
      | none => (set? key v path []).map (.table .dotted)
      | some (.table .opened _) => none
      | some (.table kind sub) => (set? key v path sub).map (.table kind)
      | some (.tables items) => (alterLast? (set? key v path) items).map .tables
      | some (.leaf _) => none) es

mutual

/-- The value that a key stands for in a finished document. -/
def TomlNode.value : TomlNode → TomlValue
  | .leaf v => v
  | .table _ es => .table (entriesValue es)
  | .tables items => .array (itemsValue items)

/-- The entries of a finished table. -/
def entriesValue : List (String × TomlNode) → List (String × TomlValue)
  | [] => []
  | (k, n) :: es => (k, n.value) :: entriesValue es

/-- The tables of a finished list. -/
def itemsValue : List (List (String × TomlNode)) → List TomlValue
  | [] => []
  | t :: ts => .table (entriesValue t) :: itemsValue ts

end

end GoStyle
