import GoStyle.Lint.Rule
import GoStyle.Text.Affix

/-!
# Comments on functions

An exported function, or an exported method of an exported type, has a comment that begins with its
name. Methods that implement well-known interfaces need none, nor do the sort methods of a sortable
type. A method whose receiver type cannot be named is left alone.
-/

namespace GoStyle

/-- Whether a method of this name implements a well-known interface. -/
def isCommonMethod (name : String) : Bool :=
  ["Error", "Read", "ServeHTTP", "String", "Write"].contains name

/-- How a function that needs a comment is called in a report; none if it needs none. -/
def FileContext.funcTitle? (c : FileContext) (f : FuncDecl) : Option String :=
  if !f.name.isExported then none
  else
    match f.receiver with
    | none => some ("function " ++ f.name.name)
    | some r =>
      match r.typeName with
      | none => none
      | some type =>
        if !isExported type || isCommonMethod f.name.name then none
        else if isSortMethod f.name.name && c.package.isSortable type then none
        else some ("method " ++ type ++ "." ++ f.name.name)

/-- What is wrong with the comment on a function of the given title. -/
def FileContext.titledFuncDoc (c : FileContext) (f : FuncDecl) (title : String) : Option Problem :=
  match f.doc with
  | none =>
    some ((c.problem f.pos 1.0 commentsCategory
      ("exported " ++ title ++ " should have comment or be unexported")).withLink
        (reviewGuide "doc-comments"))
  | some doc =>
    if beginsWith (f.name.name ++ " ") doc.text then none
    else
      some ((c.problem doc.pos docFormConfidence commentsCategory
        ("comment on exported " ++ title ++ " should be of the form \"" ++ f.name.name ++
          " ...\"")).withLink (reviewGuide "doc-comments"))

/-- What is wrong with the comment on a function. -/
def FileContext.funcDoc (c : FileContext) (f : FuncDecl) : Option Problem :=
  (c.funcTitle? f).bind (c.titledFuncDoc f)

/-- The rule on comments of functions. -/
def funcDocRule : Rule :=
  Rule.ofFindings "exported-func-doc" commentsCategory
    "Requires doc comments of the form \"Name ...\" on exported functions and methods"
    fun c => c.file.funcs.filterMap c.funcDoc

end GoStyle
