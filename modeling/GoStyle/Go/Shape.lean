import GoStyle.Go.Token

/-!
# Shapes of programs

A shape says what tokens may stand at a place: single tokens, shapes in a row, the first of two that
fits, or a shape any number of times. Shapes may refer to each other by name, so that a grammar is a
function from names to shapes. `Shape.accept?` gives what follows the tokens of a shape. Comments
and line ends may stand before any token; `onLine` and `terminator` are the shapes that take notice
of line ends.
-/

namespace GoStyle

/-- What tokens may stand at a place. -/
inductive Shape (Name : Type) where
  /-- No token. -/
  | nothing
  /-- The given keyword or symbol. -/
  | mark (text : List Char)
  /-- A name. -/
  | name
  /-- A name or a keyword. -/
  | word
  /-- A number or a rune. -/
  | literal
  /-- A string. -/
  | quoted
  /-- No token, and the next one is on the same line. -/
  | onLine
  /-- No token, and the next one is one of the given marks. -/
  | before (texts : List (List Char))
  /-- The end of a line, a semicolon or the end of the program. -/
  | terminator
  | seq (a b : Shape Name)
  | alt (a b : Shape Name)
  | many (a : Shape Name)
  | ref (n : Name)
deriving Repr

variable {Name : Type}

/-- Shapes in a row. -/
def Shape.row : List (Shape Name) → Shape Name
  | [] => .nothing
  | [a] => a
  | a :: as => .seq a (row as)

/-- The first of several shapes that fits. If there are none, it stands nowhere. -/
def Shape.oneOf : List (Shape Name) → Shape Name
  | [] => .before []
  | [a] => a
  | a :: as => .alt a (oneOf as)

/-- The given keyword or symbol. -/
def Shape.tok (text : String) : Shape Name :=
  .mark text.toList

/-- The shape or nothing. -/
def Shape.opt (a : Shape Name) : Shape Name :=
  .alt a .nothing

/-- The shape several times, with a comma between each two. -/
def Shape.commas (a : Shape Name) : Shape Name :=
  .seq a (.many (.seq (.mark [',']) a))

/-- The tokens from the next one on that is neither a comment nor the end of a line. -/
def skipTrivia (ts : List Token) : List Token :=
  ts.dropWhile Token.isTrivia

/-- The tokens from the next one on that is no comment. -/
def skipComments (ts : List Token) : List Token :=
  ts.dropWhile (·.kind == .comment)

/-- What follows the next token, if it is as asked for. -/
def takeToken? (p : Token → Bool) (ts : List Token) : Option (List Token) :=
  match skipTrivia ts with
  | [] => none
  | t :: rest => if p t then some rest else none

/-- What follows the end of a statement. -/
def takeTerminator? (ts : List Token) : Option (List Token) :=
  match skipComments ts with
  | [] => some []
  | t :: rest => if t.kind = .lineEnd ∨ t.isMark [';'] then some rest else none

/-- Whether the next token is on the same line. -/
def isOnLine (ts : List Token) : Bool :=
  match skipComments ts with
  | [] => false
  | t :: _ => t.kind != .lineEnd

/-- What follows the tokens of a shape, if they stand there. `grammar` gives the shapes of names,
and `fuel` bounds the depth of the search. -/
def Shape.accept? (grammar : Name → Shape Name) :
    Nat → Shape Name → List Token → Option (List Token)
  | 0, _, _ => none
  | _ + 1, .nothing, ts => some ts
  | _ + 1, .mark text, ts => takeToken? (·.isMark text) ts
  | _ + 1, .name, ts => takeToken? Token.isName ts
  | _ + 1, .word, ts => takeToken? (·.kind == .word) ts
  | _ + 1, .literal, ts => takeToken? (·.kind == .literal) ts
  | _ + 1, .quoted, ts => takeToken? (·.kind == .quoted) ts
  | _ + 1, .onLine, ts => if isOnLine ts then some ts else none
  | _ + 1, .before texts, ts =>
    match skipTrivia ts with
    | [] => none
    | t :: _ => if texts.any fun text => t.isMark text then some ts else none
  | _ + 1, .terminator, ts => takeTerminator? ts
  | fuel + 1, .seq a b, ts => (accept? grammar fuel a ts).bind (accept? grammar fuel b)
  | fuel + 1, .alt a b, ts =>
    match accept? grammar fuel a ts with
    | some rest => some rest
    | none => accept? grammar fuel b ts
  | fuel + 1, .many a, ts =>
    match accept? grammar fuel a ts with
    | some rest => accept? grammar fuel (.many a) rest
    | none => some ts
  | fuel + 1, .ref n, ts => accept? grammar fuel (grammar n) ts

end GoStyle
