import GoStyle.Lint.Rule
import GoStyle.Text.Affix

/-!
# Comments on constants and variables

An exported value has a comment, its own or that of its declaration, which begins with its name; a
missing comment is reported once for each declaration. The comment on a declaration in parentheses
speaks for all its values. An exported name after the first of its line should be declared on its
own.
-/

namespace GoStyle

/-- The first name after the first that is exported. -/
def ValueSpec.exportedLater? (s : ValueSpec) : Option Ident :=
  s.names.tail.find? Ident.isExported

/-- What is wrong with the comment on an exported value, and the notes afterwards. -/
def FileContext.commentedValue (c : FileContext) (g : GroupId) (d : ValueDecl) (s : ValueSpec)
    (name : String) (state : PassState) : Option Problem × PassState :=
  let form := fun (doc : CommentGroup) =>
    if beginsWith (name ++ " ") doc.text then none
    else
      some ((c.problem doc.pos docFormConfidence commentsCategory
        ("comment on exported " ++ d.kind.keyword ++ " " ++ name ++ " should be of the form \"" ++
          name ++ " ...\"")).withLink (reviewGuide "doc-comments"))
  match s.doc, d.doc with
  | none, none =>
    if state.hasMissingComment g then (none, state)
    else
      let block := if d.kind = .const ∧ d.grouped then " (or a comment on this block)" else ""
      (some ((c.problem s.pos 1.0 commentsCategory
        ("exported " ++ d.kind.keyword ++ " " ++ name ++ " should have comment" ++ block ++
          " or be unexported")).withLink (reviewGuide "doc-comments")),
        state.markMissingComment g)
  | some doc, none => (form doc, state)
  | specDoc, some declDoc =>
    if d.grouped then (none, state) else (form (specDoc.getD declDoc), state)

/-- What is wrong with one line of a value declaration, and the notes afterwards. -/
def FileContext.valueDoc (c : FileContext) (g : GroupId) (d : ValueDecl) (s : ValueSpec)
    (state : PassState) : Option Problem × PassState :=
  match s.exportedLater? with
  | some extra =>
    (some (c.problem s.pos 1.0 commentsCategory
      ("exported " ++ d.kind.keyword ++ " " ++ extra.name ++ " should have its own declaration")),
      state)
  | none =>
    match s.names.head? with
    | none => (none, state)
    | some first =>
      if first.isExported then c.commentedValue g d s first.name state else (none, state)

/-- What is wrong with the lines of a value declaration, and the notes afterwards. -/
def FileContext.valueSpecDocs (c : FileContext) (g : GroupId) (d : ValueDecl) :
    List ValueSpec → PassState → List Problem × PassState
  | [], state => ([], state)
  | s :: ss, state =>
    let (found, state) := c.valueDoc g d s state
    let (more, state) := c.valueSpecDocs g d ss state
    (found.toList ++ more, state)

/-- What is wrong with the values of some declarations, and the notes afterwards. -/
def FileContext.valueDocs (c : FileContext) :
    List (GroupId × Decl) → PassState → List Problem × PassState
  | [], state => ([], state)
  | (g, .value d) :: ds, state =>
    let (found, state) := c.valueSpecDocs g d d.specs state
    let (more, state) := c.valueDocs ds state
    (found ++ more, state)
  | _ :: ds, state => c.valueDocs ds state

/-- The rule on comments of constants and variables. -/
def valueDocRule : Rule where
  name := "exported-value-doc"
  category := commentsCategory
  description := "Requires doc comments on exported constants and variables"
  skipsGenerated := true
  check := fun c s =>
    let (found, s) := c.valueDocs c.decls s
    (.ok found, s)

end GoStyle
