import GoStyle.Go.Doc

/-!
# Reading a program

`SourceFile.ofText` reads a Go program and keeps what rules can see of it. It fails if the text is
no program, or else if it has no package clause. The last package clause counts, if there are
several.
-/

namespace GoStyle

/-- Why a file cannot be read as a program. -/
inductive ExtractError where
  | syntaxError (path : Path)
  | missingPackage (path : Path)
deriving Repr, DecidableEq

/-- The text of an error. -/
def ExtractError.message : ExtractError → String
  | .syntaxError path => path.text ++ ": syntax error"
  | .missingPackage path => path.text ++ ": expected package clause"

/-- The types that a declaration declares; comments on them count only in parentheses. -/
def typeSpecs (grouped : Bool) (specs : List (Event Ident)) : List TypeSpec :=
  (Event.commented DocTracker.empty specs).map fun s =>
    ⟨s.item, if grouped then s.doc.map groupOf else none⟩

/-- The values that a declaration declares; comments on them count only in parentheses. -/
def valueSpecs (grouped : Bool) (specs : List (Event (List Ident))) : List ValueSpec :=
  (Event.commented DocTracker.empty specs).filterMap fun s =>
    s.item.head?.map fun first =>
      ⟨first.pos, s.item, if grouped then s.doc.map groupOf else none⟩

/-- The declaration that an item is. -/
def Commented.decl? (c : Commented Item) : Option Decl :=
  let doc := c.doc.map groupOf
  match c.item with
  | .func pos name receiver => some (.func ⟨pos, name, receiver, doc⟩)
  | .types pos grouped specs => some (.type ⟨pos, grouped, doc, typeSpecs grouped specs⟩)
  | .values kind pos grouped specs =>
    some (.value ⟨kind, pos, grouped, doc, valueSpecs grouped specs⟩)
  | .package _ _ | .other => none

/-- The file with the given items, if there is a package clause among them. -/
def SourceFile.ofItems? (path : Path) (content : String) (items : List (Commented Item)) :
    Option SourceFile :=
  (items.reverse.findSome? fun c =>
    match c.item with
    | .package pos name => some (pos, name, c)
    | _ => none).map fun (pos, name, c) =>
      { path
        package := name
        packagePos := pos
        packageDoc := c.doc.map groupOf
        leadingComments := c.before.map groupOf
        content
        decls := items.filterMap Commented.decl? }

/-- The outline of a text. -/
def outlineOfText? (content : String) : Option (List (Event Item)) :=
  (tokens? content.toList).bind outline?

/-- The file with the given text. -/
def SourceFile.ofText (path : Path) (content : String) : Except ExtractError SourceFile :=
  match outlineOfText? content with
  | none => .error (.syntaxError path)
  | some events =>
    match SourceFile.ofItems? path content (Event.commented DocTracker.empty events) with
    | none => .error (.missingPackage path)
    | some file => .ok file

end GoStyle
