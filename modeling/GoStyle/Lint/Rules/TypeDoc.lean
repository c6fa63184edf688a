import GoStyle.Lint.Rule
import GoStyle.Text.Affix

/-!
# Comments on types

An exported type has a comment, its own or that of its declaration, which begins with the name of
the type. An article may stand in front of the name.
-/

namespace GoStyle

/-- The text after an article and a space, if it begins so. -/
def afterArticle? (text : List Char) : Option (List Char) :=
  ["A ", "An ", "The "].findSome? fun article => after? article.toList text

/-- The text without an article at its beginning. -/
def withoutArticle (text : List Char) : List Char :=
  (afterArticle? text).getD text

/-- What is wrong with the comment on a type. -/
def FileContext.typeDoc (c : FileContext) (name : Ident) (doc : Option CommentGroup) :
    Option Problem :=
  if !name.isExported then none
  else
    match doc with
    | none =>
      some ((c.problem name.pos 1.0 commentsCategory
        ("exported type " ++ name.name ++ " should have comment or be unexported")).withLink
          (reviewGuide "doc-comments"))
    | some doc =>
      if (name.name ++ " ").toList.isPrefixOf (withoutArticle doc.text.toList) then none
      else
        some ((c.problem doc.pos docFormConfidence commentsCategory
          ("comment on exported type " ++ name.name ++ " should be of the form \"" ++ name.name ++
            " ...\" (with optional leading article)")).withLink (reviewGuide "doc-comments"))

/-- What is wrong with the comments on the types of a declaration. -/
def FileContext.typeDocs (c : FileContext) : Decl → List Problem
  | .type d => d.specs.filterMap fun s => c.typeDoc s.name (s.doc.or d.doc)
  | _ => []

/-- The rule on comments of types. -/
def typeDocRule : Rule :=
  Rule.ofFindings "exported-type-doc" commentsCategory
    "Requires doc comments of the form \"Name ...\" on exported types"
    fun c => c.file.decls.flatMap c.typeDocs

end GoStyle
