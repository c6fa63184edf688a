import GoStyle.Go.Lexeme
import GoStyle.Source.Position

/-!
# Tokens

A token is a lexeme with the places where it begins and ends. Places are counted from the beginning
of the text: rows by line feeds, columns and offsets by bytes (`Point.after`). Gaps are no tokens,
comments and line ends are.
-/

namespace GoStyle

/-! ## Points -/

/-- A place in a source text: row, column and offset, all counted from 0. -/
structure Point where
  row : Nat
  column : Nat
  offset : Nat
deriving Repr, DecidableEq

/-- The beginning of a text. -/
def Point.zero : Point :=
  ⟨0, 0, 0⟩

/-- The place behind a character. -/
def Point.step (p : Point) (c : Char) : Point :=
  if c = '\n' then ⟨p.row + 1, 0, p.offset + 1⟩
  else ⟨p.row, p.column + c.utf8Size, p.offset + c.utf8Size⟩

/-- The place behind a text. -/
def Point.after (p : Point) (s : List Char) : Point :=
  s.foldl Point.step p

/-- The position in a file, whose lines and columns are counted from 1. -/
def Point.pos (p : Point) : Pos :=
  ⟨p.row + 1, p.column + 1, p.offset⟩

/-! ## Tokens -/

/-- A lexeme with its place. -/
structure Token where
  kind : LexemeKind
  text : List Char
  start : Point
  stop : Point
deriving Repr, DecidableEq

/-- Tokens one after the other, the first beginning at `p`. -/
def tokensFrom (p : Point) : List Lexeme → List Token
  | [] => []
  | l :: ls =>
    let q := p.after l.text
    if l.kind = .gap then tokensFrom q ls else ⟨l.kind, l.text, p, q⟩ :: tokensFrom q ls

/-- The tokens of a text. -/
def tokens? (s : List Char) : Option (List Token) :=
  (lexemes? s).map (tokensFrom Point.zero)

/-- The keywords. -/
def keywords : List (List Char) :=
  ["break", "case", "chan", "const", "continue", "default", "defer", "else", "fallthrough", "for",
    "func", "go", "goto", "if", "import", "interface", "map", "package", "range", "return", "select",
    "struct", "switch", "type", "var"].map String.toList

/-- Whether the token is a name. -/
def Token.isName (t : Token) : Bool :=
  t.kind == .word && !keywords.contains t.text

/-- Whether the token is the given keyword or symbol. -/
def Token.isMark (text : List Char) (t : Token) : Bool :=
  (t.kind == .symbol || t.kind == .word) && t.text == text

/-- Whether the token is a comment or the end of a line, which most places of a program may hold. -/
def Token.isTrivia (t : Token) : Bool :=
  t.kind == .comment || t.kind == .lineEnd

/-- The token as an identifier. -/
def Token.ident (t : Token) : Ident :=
  ⟨String.ofList t.text, t.start.pos⟩

end GoStyle
