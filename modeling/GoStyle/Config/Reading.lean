import GoStyle.Config
import GoStyle.Toml.Document

/-!
# The text of configurations

`Config.ofText?` reads a configuration from a document. Keys that mean nothing here are skipped; a
key of the wrong kind makes the document no configuration. The tables may be written as arrays of
their fields in order, and a date in the place of a table is one without fields.
-/

namespace GoStyle

/-! ## Fields -/

/-- A list of texts. -/
def TomlValue.strings? : TomlValue → Option (List String)
  | .array items => items.mapM fun
    | .str s => some s
    | _ => none
  | _ => none

/-- A number. -/
def TomlValue.number? : TomlValue → Option Float
  | .int n => some (doubleOfInt n)
  | .float x => some x
  | _ => none

/-- The fields of a structure with the given names, as far as they are given. -/
def TomlValue.fields? (names : List String) : TomlValue → Option (List (Option TomlValue))
  | .table entries => some (names.map fun n => entries.lookup n)
  | .array items => some ((List.range names.length).map fun i => items[i]?)
  | .date => some (names.map fun _ => none)
  | _ => none

/-- A list of texts, or the default if it is not given. -/
def stringsOr? (default : List String) : Option TomlValue → Option (List String)
  | none => some default
  | some v => v.strings?

/-! ## Tables -/

/-- The tables of a policy. -/
def PolicyTables.ofToml? (v : TomlValue) : Option PolicyTables := do
  match ← v.fields? ["known_name_exceptions", "generated_markers"] with
  | [exceptions, markers] =>
    return ⟨← stringsOr? PolicyTables.default.exceptions exceptions,
      ← stringsOr? PolicyTables.default.markers markers⟩
  | _ => none

/-- The files to leave out. -/
def excludeOfToml? (v : TomlValue) : Option (List String) := do
  match ← v.fields? ["exclude"] with
  | [exclude] => stringsOr? [] exclude
  | _ => none

/-- A value made by `f`, or the default if none is given. -/
def orDefault? {α : Type} (f : TomlValue → Option α) (default : α) : Option TomlValue → Option α
  | none => some default
  | some v => f v

/-- The configuration that a text holds, if it holds one. -/
def Config.ofText? (text : String) : Option Config := do
  let entries ← Toml.ofText? text
  let minConfidence ←
    orDefault? (fun v => v.number?.map some) none (entries.lookup "min_confidence")
  let policy ← orDefault? PolicyTables.ofToml? PolicyTables.default (entries.lookup "policy")
  let exclude ← orDefault? excludeOfToml? [] (entries.lookup "discovery")
  return ⟨minConfidence, policy, exclude⟩

end GoStyle
