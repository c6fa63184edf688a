import GoStyle.Go.Grammar
import GoStyle.Source.File

/-!
# Outlines

The outline of a program is what stands at its top level, one after the other: comments, items and
the marks between items. A declaration in parentheses has an outline of its own, of its
specifications. `Event.list?` reads both, since both are items with the end of a statement after
each. Comments inside an item are no part of the outline.
-/

namespace GoStyle

/-! ## Events -/

/-- Something in an outline: a comment, an item with the rows on which it begins and ends, or a mark
between items with its row. -/
inductive Event (Item : Type) where
  | comment (t : Token)
  | code (item : Item) (first last : Nat)
  | mark (row : Nat)
deriving Repr

/-- The tokens before the rest. -/
def consumed (ts rest : List Token) : List Token :=
  ts.take (ts.length - rest.length)

/-- The row on which the tokens before the rest end. -/
def lastRow (ts rest : List Token) : Nat :=
  ((consumed ts rest).getLast?.map (·.stop.row)).getD 0

/-- Whether the token ends a statement. -/
def Token.endsStatement (t : Token) : Bool :=
  t.kind == .lineEnd || t.isMark [';']

/-- The items, comments and marks up to a closing parenthesis or the end of the program, and the
tokens from there on. `item?` reads an item that begins with the next token, and `limit` bounds the
number of steps. -/
def Event.list? {Item : Type} (item? : List Token → Option (Item × List Token)) :
    Nat → List Token → Option (List (Event Item) × List Token)
  | 0, _ => none
  | _ + 1, [] => some ([], [])
  | limit + 1, t :: ts =>
    if t.kind = .lineEnd then list? item? limit ts
    else if t.kind = .comment then
      (list? item? limit ts).map fun (es, rest) => (.comment t :: es, rest)
    else if t.isMark [')'] then some ([], t :: ts)
    else
      match item? (t :: ts) with
      | none => none
      | some (item, rest) =>
        let first := Event.code item t.start.row (lastRow (t :: ts) rest)
        let comments := (rest.takeWhile (·.kind == .comment)).map Event.comment
        match skipComments rest with
        | [] => some (first :: comments, [])
        | e :: more =>
          if e.endsStatement then
            (list? item? limit more).map fun (es, rest) =>
              (first :: comments ++ .mark e.start.row :: es, rest)
          else none

/-! ## Names and receivers -/

/-- A name where only a name can stand; keywords count as names there. -/
def takeWord? (ts : List Token) : Option (Ident × List Token) :=
  match skipTrivia ts with
  | [] => none
  | t :: rest => if t.kind = .word then some (t.ident, rest) else none

/-- Names with commas between them. -/
def takeNames? (ts : List Token) : Option (List Ident × List Token) :=
  (Shape.word.commas.follow? ts).map fun rest =>
    (((consumed ts rest).filter (·.kind == .word)).map Token.ident, rest)

/-- The name of a type behind pointers and parentheses. A type of another package has none, and a
comment behind a pointer or a parenthesis hides it. -/
def baseName? : List Token → Option String
  | [] => none
  | t :: ts =>
    if t.kind = .lineEnd ∨ t.isMark ['*'] ∨ t.isMark ['('] then baseName? ts
    else if t.isName then
      if (skipTrivia ts).head?.any (·.isMark ['.']) then none else some (String.ofList t.text)
    else none

/-- A type at the end of a parameter. -/
def parameterType : Shape Phrase :=
  .row [.ref .type, .before [[','], [')']]]

/-- What stands before the type of a parameter for any number of values. -/
def variadicStart : Shape Phrase :=
  .row [.opt .name, .tok "..."]

/-- The receiver described by the first parameter in a list, of which the tokens after the opening
parenthesis are given. -/
def receiverOf (ts : List Token) : Receiver :=
  let named? := do
    let (names, rest) ← takeNames? ts
    let _ ← parameterType.follow? rest
    pure (names, rest)
  match named? with
  | some (names, rest) => ⟨names.head?, baseName? (skipTrivia rest)⟩
  | none =>
    match variadicStart.follow? ts with
    | some rest =>
      ⟨((consumed ts rest).find? Token.isName).map Token.ident, baseName? (skipTrivia rest)⟩
    | none => ⟨none, baseName? (skipTrivia ts)⟩

/-! ## Items -/

/-- What stands at the top level of a program. -/
inductive Item where
  | package (pos : Pos) (name : Ident)
  | func (pos : Pos) (name : Ident) (receiver : Option Receiver)
  | types (pos : Pos) (grouped : Bool) (specs : List (Event Ident))
  | values (kind : ValueKind) (pos : Pos) (grouped : Bool) (specs : List (Event (List Ident)))
  | other
deriving Repr

/-- A package clause. -/
def packageItem? (pos : Pos) (ts : List Token) : Option (Item × List Token) :=
  (takeWord? ts).map fun (name, rest) => (.package pos name, rest)

/-- The body of a function, which may be missing. -/
def bodyShape : Shape Phrase :=
  .opt (.row [.onLine, .ref .block])

/-- What follows `func`: a receiver and the rest of a method, or the rest of a function. -/
def funcItem? (pos : Pos) (ts : List Token) : Option (Item × List Token) :=
  match (Shape.ref Phrase.parameters).follow? ts with
  | some rest => do
    let receiver := receiverOf (skipTrivia ts).tail
    let (name, rest) ← takeWord? rest
    let rest ← (Shape.row [.ref Phrase.signature, bodyShape]).follow? rest
    pure (.func pos name (some receiver), rest)
  | none => do
    let (name, rest) ← takeWord? ts
    let rest ←
      (Shape.row [.opt (.ref Phrase.typeParameters), .ref .signature, bodyShape]).follow? rest
    pure (.func pos name none, rest)

/-- A type that is declared. -/
def typeSpec? (ts : List Token) : Option (Ident × List Token) := do
  let (name, rest) ← takeWord? ts
  let rest ← typeRest.follow? rest
  pure (name, rest)

/-- Constants or variables that are declared together. -/
def valueSpec? (kind : ValueKind) (ts : List Token) : Option (List Ident × List Token) := do
  let (names, rest) ← takeNames? ts
  let rest ← (match kind with
    | .const => constRest
    | .var => varRest).follow? rest
  pure (names, rest)

/-- One specification, or any number of them in parentheses. -/
def specs? {Spec : Type} (spec? : List Token → Option (Spec × List Token)) (ts : List Token) :
    Option (Bool × List (Event Spec) × List Token) :=
  match skipTrivia ts with
  | [] => none
  | t :: rest =>
    if t.isMark ['('] then
      match Event.list? spec? (rest.length + 1) rest with
      | some (events, _ :: rest) => some (true, .mark t.start.row :: events, rest)
      | _ => none
    else
      (spec? (t :: rest)).map fun (spec, after) =>
        (false, [.code spec t.start.row (lastRow (t :: rest) after)], after)

/-- A declaration, of which the keyword and what follows it are given. -/
def declItem? (keyword : Token) (ts : List Token) : Option (Item × List Token) :=
  let pos := keyword.start.pos
  if keyword.isMark "type".toList then
    (specs? typeSpec? ts).map fun (grouped, specs, rest) => (.types pos grouped specs, rest)
  else if keyword.isMark "const".toList then
    (specs? (valueSpec? .const) ts).map fun (grouped, specs, rest) =>
      (.values .const pos grouped specs, rest)
  else if keyword.isMark "var".toList then
    (specs? (valueSpec? .var) ts).map fun (grouped, specs, rest) =>
      (.values .var pos grouped specs, rest)
  else if keyword.isMark "package".toList then packageItem? pos ts
  else if keyword.isMark "func".toList then funcItem? pos ts
  else none

/-- What stands at the top level at the beginning of some tokens. Statements may, though they
declare nothing. -/
def item? (ts : List Token) : Option (Item × List Token) :=
  match ts with
  | [] => none
  | t :: rest =>
    match declItem? t rest with
    | some found => some found
    | none =>
      ((Shape.oneOf [.ref Phrase.importClause, .ref .statement]).follow? ts).map fun rest =>
        (.other, rest)

/-- The outline of a program. -/
def outline? (ts : List Token) : Option (List (Event Item)) :=
  match Event.list? item? (ts.length + 1) ts with
  | some (events, []) => some events
  | _ => none

end GoStyle
