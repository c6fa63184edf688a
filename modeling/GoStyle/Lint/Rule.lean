import GoStyle.Lint.Package
import GoStyle.Lint.Problem

/-!
# Rules

A rule looks at one file of a package and says what could be better. It sees the file, the facts of
the package and the policy (`FileContext`), and it may keep notes from one file to the next in the
`PassState` that all rules of a run share. A rule that runs into a fault has no results for the
file, but its notes stay.
-/

namespace GoStyle

/-! ## Notes of a run -/

/-- A declaration, by the index of its file in the package and its index in the file. -/
structure GroupId where
  file : Nat
  decl : Nat
deriving Repr, DecidableEq

/-- The declarations about which a missing comment has been reported. -/
structure PassState where
  reported : List GroupId
deriving Repr, DecidableEq

/-- Nothing has been reported. -/
def PassState.empty : PassState :=
  ⟨[]⟩

/-- Whether a missing comment has been reported about a declaration. -/
def PassState.hasMissingComment (s : PassState) (g : GroupId) : Bool :=
  s.reported.contains g

/-- Note that a missing comment is reported about a declaration. -/
def PassState.markMissingComment (s : PassState) (g : GroupId) : PassState :=
  if s.hasMissingComment g then s else ⟨g :: s.reported⟩

/-! ## What a rule sees -/

/-- A file of a package, with its index, the facts of the package and the policy. -/
structure FileContext where
  file : SourceFile
  index : Nat
  package : PackageContext
  policy : Policy

/-- Whether the file is generated. -/
def FileContext.isGenerated (c : FileContext) : Bool :=
  c.package.isGenerated c.file.path

/-- The name in the file's package clause. -/
def FileContext.packageName (c : FileContext) : String :=
  c.file.package.name

/-- The declarations of the file from index `n` on, each with its identity. -/
def numberDecls (file : Nat) : Nat → List Decl → List (GroupId × Decl)
  | _, [] => []
  | n, d :: ds => (⟨file, n⟩, d) :: numberDecls file (n + 1) ds

/-- The declarations of the file, each with its identity. -/
def FileContext.decls (c : FileContext) : List (GroupId × Decl) :=
  numberDecls c.index 0 c.file.decls

/-- A problem at a point of the file, with the line it stands on. -/
def FileContext.problem (c : FileContext) (pos : Pos) (confidence : Float)
    (category text : String) : Problem where
  position := ⟨c.file.path, pos.line, pos.column, pos.offset⟩
  text
  category
  confidence
  link := none
  lineText := c.file.line pos.line
  replacement := none
  rule := ""

/-- The problem with a link to the section of a guide. -/
def Problem.withLink (p : Problem) (link : String) : Problem :=
  { p with link := some link }

/-! ## Categories and links -/

/-- The category of problems with the presence and form of comments. -/
def commentsCategory : String :=
  "comments"

/-- The category of problems with names. -/
def namingCategory : String :=
  "naming"

/-- The link to a section of the review guide. -/
def reviewGuide (section_ : String) : String :=
  "https://golang.org/wiki/CodeReviewComments#" ++ section_

/-- The link to a section of the language's style guide. -/
def effectiveGo (section_ : String) : String :=
  "https://golang.org/doc/effective_go.html#" ++ section_

/-- The confidence in problems with the form of a comment on a declaration. -/
def docFormConfidence : Float :=
  0.8

/-! ## Rules and faults -/

/-- Why a rule cannot say anything about a file. -/
inductive RuleFault where
  /-- The upper-case form of an initialism at the end of a name is longer than the name has room
  for. -/
  | initialismOverrun (word : String)
  /-- A comment ends on a line after which no line can be counted. -/
  | lineOverflow (line : Nat)
deriving Repr, DecidableEq

/-- A check on one file of a package. -/
structure Rule where
  name : String
  category : String
  description : String
  skipsGenerated : Bool
  check : FileContext → PassState → Except RuleFault (List Problem) × PassState

/-- A check that keeps no notes and has no faults. -/
def Rule.ofFindings (name category description : String) (find : FileContext → List Problem) :
    Rule where
  name
  category
  description
  skipsGenerated := true
  check := fun c s => (.ok (find c), s)

end GoStyle
