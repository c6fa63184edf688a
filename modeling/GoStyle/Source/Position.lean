import GoStyle.Text.Word

/-!
# Positions and identifiers

A point in a source file has a line, a column and an offset. Lines and columns are counted from 1,
columns and offsets in bytes.
-/

namespace GoStyle

/-- A point in a source file. -/
structure Pos where
  line : Nat
  column : Nat
  offset : Nat
deriving Repr, DecidableEq, Inhabited

/-- The first point of a file. -/
def Pos.start : Pos :=
  ⟨1, 1, 0⟩

/-- A name and the point where it begins. -/
structure Ident where
  name : String
  pos : Pos
deriving Repr, DecidableEq, Inhabited

/-- Whether the identifier is exported. -/
def Ident.isExported (i : Ident) : Bool :=
  GoStyle.isExported i.name

end GoStyle
