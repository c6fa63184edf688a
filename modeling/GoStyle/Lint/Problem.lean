import GoStyle.Decimal.Layout
import GoStyle.Path
import GoStyle.Text.Blank

/-!
# Problems

What a rule has to say about a place in the source: the place, the prose, a category, how confident
the rule is, and, where there are such, a link to the style guide and a replacement for the line.
`Problem.line` and `Problem.verbose` are the two forms in which a terminal shows it, and
`Problem.diagnostic` what an annotated listing needs.
-/

namespace GoStyle

/-- A place in a file. Lines and columns are counted from 1, columns and offsets in bytes. -/
structure Position where
  file : Path
  line : Nat
  column : Nat
  offset : Nat
deriving Repr, DecidableEq

/-- Whether two positions are the same, their files compared by components. -/
def Position.same (p q : Position) : Bool :=
  p.file.same q.file && p.line == q.line && p.column == q.column && p.offset == q.offset

/-- The place as `file:line:column`. -/
def Position.text (p : Position) : String :=
  p.file.text ++ ":" ++ toString p.line ++ ":" ++ toString p.column

/-- Something to improve in the source. -/
structure Problem where
  position : Position
  text : String
  category : String
  confidence : Float
  link : Option String
  lineText : String
  replacement : Option String
  rule : String

/-- Whether two problems say the same about the same place. -/
def Problem.twin (p q : Problem) : Bool :=
  p.position.same q.position && p.text == q.text

/-- The problem on one line: `file:line:column: text`. -/
def Problem.line (p : Problem) : String :=
  p.position.text ++ ": " ++ p.text

/-- The problem on one line with its rule and its confidence. -/
def Problem.compactLine (p : Problem) : String :=
  p.position.text ++ ": [" ++ p.rule ++ "] " ++ p.text ++ " (" ++ fixedText 2 p.confidence ++ ")"

/-- The problem with its source line, the suggestion and the link, each on a line of its own. -/
def Problem.verbose (p : Problem) : String :=
  p.line ++ "\n" ++
  "  = " ++ p.category ++ " (" ++ p.rule ++ ", confidence " ++ plainText p.confidence ++ ")\n" ++
  (if p.lineText = "" then "" else "  | " ++ p.lineText ++ "\n") ++
  (match p.replacement with
    | some l => "  = help: " ++ trimmed l ++ "\n"
    | none => "") ++
  (match p.link with
    | some l => "  = see: " ++ l ++ "\n"
    | none => "")

/-- A problem as an annotation of a source text: a message, a hint, and a label at an offset. -/
structure Diagnostic where
  message : String
  help : Option String
  offset : Nat
  label : String
deriving Repr, DecidableEq

/-- The annotation for a problem. The hint is the replacement or, without one, the link. -/
def Problem.diagnostic (p : Problem) : Diagnostic where
  message := p.text
  help :=
    match p.replacement with
    | some l => some ("replace with `" ++ trimmed l ++ "`")
    | none => p.link.map ("see " ++ ·)
  offset := p.position.offset
  label := p.category ++ " (" ++ plainText p.confidence ++ ")"

end GoStyle
