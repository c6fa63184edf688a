import GoStyle.Pattern.RegexText
import GoStyle.Text.Blank

/-!
# Policies

A policy says which names are exempt from the naming rules and which comment lines mark a file as
machine-generated. `PolicyTables` is a policy as it is written, with the markers as pattern texts;
`PolicyTables.compile` reads the patterns and fails with the first that is none.
-/

namespace GoStyle

/-- The tables of a policy as they are written. -/
structure PolicyTables where
  exceptions : List String
  markers : List String
deriving Repr, DecidableEq

/-- The tables in force when none are given: two names of the standard library, and the line that
generators agree on. -/
def PolicyTables.default : PolicyTables where
  exceptions := ["LastInsertId", "kWh"]
  markers := ["^// Code generated .* DO NOT EDIT\\.$"]

/-- A policy ready for use. -/
structure Policy where
  exceptions : List String
  markers : List Regex

/-- Whether a name is exempt from the naming rules. -/
def Policy.isKnownException (p : Policy) (name : String) : Bool :=
  p.exceptions.contains name

/-- Whether a comment line, trailing white space apart, marks its file as generated. -/
def Policy.isGeneratedMarker (p : Policy) (line : String) : Bool :=
  p.markers.any fun r => r.matches (trimEnd line.toList)

/-- The patterns with the given texts, or the first text that is no pattern. -/
def compileMarkers : List String → Except String (List Regex)
  | [] => .ok []
  | t :: ts =>
    match Regex.ofText? t with
    | none => .error t
    | some r =>
      match compileMarkers ts with
      | .ok rs => .ok (r :: rs)
      | .error e => .error e

/-- The policy of some tables, or the first marker that is no pattern. -/
def PolicyTables.compile (t : PolicyTables) : Except String Policy :=
  match compileMarkers t.markers with
  | .ok markers => .ok ⟨t.exceptions, markers⟩
  | .error pattern => .error pattern

end GoStyle
