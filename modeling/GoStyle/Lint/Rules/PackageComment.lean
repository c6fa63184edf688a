import GoStyle.Decimal.Power
import GoStyle.Lint.Rule
import GoStyle.Text.Affix

/-!
# The package comment

Some file of a package has a comment directly above its package clause, and that comment begins with
`Package` and the name. A comment with these words that is separated from the clause by blank lines
is detached, and only that is reported. Commands may begin their comment as they like, and test
files are not looked at.
-/

namespace GoStyle

/-- The number of lines that can be counted. -/
def lineLimit : Nat :=
  twoTo 64

/-- How a package comment begins. -/
def packageCommentStart (name : String) : String :=
  "Package " ++ name ++ " "

/-- A problem with the package comment. -/
def FileContext.packageCommentProblem (c : FileContext) (pos : Pos) (confidence : Float)
    (text : String) : Problem :=
  (c.problem pos confidence commentsCategory text).withLink (reviewGuide "package-comments")

/-- The comment before the package clause that reads like a package comment. -/
def SourceFile.lastCommentLike? (f : SourceFile) : Option CommentGroup :=
  f.leadingComments.getLast?.filter fun g => beginsWith (packageCommentStart f.package.name) g.text

/-- Whether a character may stand in front of a package comment by mistake. -/
def isIndent (c : Char) : Bool :=
  c == ' ' || c == '\t'

/-- What is wrong with the form of a package comment. -/
def FileContext.packageDocForm (c : FileContext) (doc : CommentGroup) : List Problem :=
  let start := packageCommentStart c.packageName
  let text := doc.text.toList
  let body := text.dropWhile isIndent
  (if body.length != text.length then
    [c.packageCommentProblem doc.pos 1.0 "package comment should not have leading space"]
  else []) ++
  (if !c.package.isMain && !start.toList.isPrefixOf body then
    [c.packageCommentProblem doc.pos 1.0
      ("package comment should be of the form \"" ++ start ++ "...\"")]
  else [])

/-- What is wrong with a package comment that is attached or missing. -/
def FileContext.packageDoc (c : FileContext) : List Problem :=
  match c.file.packageDoc with
  | some doc => c.packageDocForm doc
  | none =>
    if c.package.documented then []
    else
      [c.packageCommentProblem c.file.packagePos 0.2
        "should have a package comment, unless it's in another file for this package"]

/-- What is wrong with the package comment of a file. -/
def FileContext.packageComment (c : FileContext) : Except RuleFault (List Problem) :=
  if c.file.isTest then .ok []
  else
    match c.file.lastCommentLike? with
    | none => .ok c.packageDoc
    | some last =>
      if lineLimit ≤ last.endLine + 1 then .error (.lineOverflow last.endLine)
      else if last.endLine + 1 < c.file.packagePos.line then
        .ok [c.packageCommentProblem ⟨last.endLine + 1, 1, 0⟩ 0.9
          ("package comment is detached; " ++
            "there should be no blank lines between it and the package statement")]
      else .ok c.packageDoc

/-- The rule on package comments. -/
def packageCommentRule : Rule where
  name := "package-comment"
  category := commentsCategory
  description := "Checks that the package comment exists and reads \"Package name ...\""
  skipsGenerated := true
  check := fun c s => (c.packageComment, s)

end GoStyle
