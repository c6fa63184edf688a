import GoStyle.Go.Shape

/-!
# The grammar of Go

The shapes of types, expressions and statements. Where a reader of Go would have to know what a name
stands for, the grammar admits more than the language: types may stand wherever expressions may, and
a condition may be any list of expressions. Otherwise a place has at most one shape that fits, so
that no part of a program is looked at twice for long.

In an expression two things depend on the place (`Place`): whether the end of a line ends it, as it
does in a statement but not in parentheses, and whether a brace after a name of a type opens a
literal, as it does everywhere but in the head of a statement with a body.
-/

namespace GoStyle

/-! ## Names of shapes -/

/-- What depends on where an expression stands. -/
structure Place where
  /-- The end of a line ends the expression. -/
  ended : Bool
  /-- A brace after the name of a type opens a literal. -/
  literals : Bool
deriving Repr, DecidableEq

/-- A statement of its own. -/
def Place.statement : Place :=
  ⟨true, true⟩

/-- Inside parentheses, brackets or braces. -/
def Place.inside : Place :=
  ⟨false, true⟩

/-- The head of a statement with a body. -/
def Place.head : Place :=
  ⟨false, false⟩

/-- The parts of a program that the grammar names. -/
inductive Phrase where
  | type
  | typeElement
  | typeArguments
  | typeParameters
  | fieldList
  | elementList
  | parameter
  | parameters
  | signature
  | expr (p : Place)
  | exprs (p : Place)
  | unary (p : Place)
  | operand (p : Place)
  | tail (opens : Bool) (p : Place)
  | arguments
  | subscript
  | literalBody
  | literalValue
  | simple (p : Place)
  | declaration
  | constSpec
  | varSpec
  | typeSpec
  | statement
  | statements
  | block
  | branch
  | importClause
deriving Repr, DecidableEq

open Shape

/-- What continues an expression at a place: on the same line, if the end of a line ends it. -/
def Place.next (p : Place) (a : Shape Phrase) : Shape Phrase :=
  if p.ended then .seq .onLine a else a

/-- One of several marks. -/
def anyOf (marks : List String) : Shape Phrase :=
  oneOf (marks.map tok)

/-- A shape in brackets. -/
def inBrackets (a : Shape Phrase) : Shape Phrase :=
  row [tok "[", a, tok "]"]

/-- A shape in parentheses. -/
def inParens (a : Shape Phrase) : Shape Phrase :=
  row [tok "(", a, tok ")"]

/-- A shape in braces. -/
def inBraces (a : Shape Phrase) : Shape Phrase :=
  row [tok "\x7b", a, tok "\x7d"]

/-- Shapes with commas between them and perhaps one more at the end. -/
def listOf (a : Shape Phrase) : Shape Phrase :=
  row [a.commas, opt (tok ",")]

/-- Shapes with the end of a statement between them and perhaps one more at the end. -/
def linesOfShape (a : Shape Phrase) : Shape Phrase :=
  opt (row [a, .many (row [.terminator, a]), opt .terminator])

/-! ## Types -/

/-- The name of a type, perhaps from another package and perhaps with type arguments. -/
def typeName : Shape Phrase :=
  row [.name, opt (row [.onLine, tok ".", .word]), opt (row [.onLine, .ref .typeArguments])]

/-- What follows an opening bracket of the type of an array or a slice. -/
def arrayRest : Shape Phrase :=
  oneOf [row [tok "]", .ref .type], row [tok "...", tok "]", .ref .type],
    row [.ref (.expr .inside), tok "]", .ref .type]]

/-- What follows `map`. -/
def mapRest : Shape Phrase :=
  row [inBrackets (.ref .type), .ref .type]

/-- What follows `chan`. -/
def chanRest : Shape Phrase :=
  row [opt (tok "<-"), .ref .type]

/-- What follows `struct`. -/
def structRest : Shape Phrase :=
  inBraces (.ref .fieldList)

/-- What follows `interface`. -/
def interfaceRest : Shape Phrase :=
  inBraces (.ref .elementList)

/-- A type. -/
def typeShape : Shape Phrase :=
  oneOf [typeName, row [tok "*", .ref .type], inParens (.ref .type), row [tok "[", arrayRest],
    row [tok "map", mapRest], row [tok "chan", chanRest], row [tok "<-", tok "chan", .ref .type],
    row [tok "func", .ref .signature], row [tok "struct", structRest],
    row [tok "interface", interfaceRest], row [tok "~", .ref .type]]

/-- The fields of a structure: names with a type, or an embedded type. -/
def fieldShape : Shape Phrase :=
  row [oneOf [row [Shape.name.commas, .onLine, .ref .type], row [opt (tok "*"), typeName]],
    opt (row [.onLine, .quoted])]

/-- An element of an interface: a method or a set of types. -/
def elementShape : Shape Phrase :=
  oneOf [row [.name, .before [['(']], .ref .signature], .ref .typeElement]

/-- A parameter: names with a type, a parameter for any number of values, or a type. -/
def parameterShape : Shape Phrase :=
  oneOf [row [Shape.name.commas, .ref .type, .before [[','], [')']]],
    row [opt .name, tok "...", .ref .type], .ref .type]

/-- The parameters of a function and its result. -/
def signatureShape : Shape Phrase :=
  row [.ref .parameters, opt (row [.onLine, oneOf [.ref .parameters, .ref .type]])]

/-! ## Expressions -/

/-- An operator between two operands. -/
def binaryOperator : Shape Phrase :=
  anyOf ["||", "&&", "==", "!=", "<", "<=", ">", ">=", "+", "-", "|", "^", "*", "/", "%", "<<", ">>",
    "&", "&^"]

/-- An operator in front of an operand. -/
def unaryOperator : Shape Phrase :=
  anyOf ["+", "-", "!", "^", "*", "&", "<-"]

/-- An operand with what follows it directly. Literals of types other than named ones may stand
anywhere. -/
def operandShape (p : Place) : Shape Phrase :=
  oneOf [row [.name, .ref (.tail p.literals p)], row [.literal, .ref (.tail false p)],
    row [.quoted, .ref (.tail false p)],
    row [inParens (.ref (.expr .inside)), .ref (.tail false p)],
    row [tok "func", .ref .signature, opt (row [.onLine, .ref .block]), .ref (.tail false p)],
    row [tok "[", arrayRest, .ref (.tail true p)], row [tok "map", mapRest, .ref (.tail true p)],
    row [tok "struct", structRest, .ref (.tail true p)],
    row [tok "chan", chanRest, .ref (.tail false p)],
    row [tok "interface", interfaceRest, .ref (.tail false p)]]

/-- What follows an operand directly: selectors, type assertions, subscripts, calls, and the body of
a literal if the operand may be a type. -/
def tailShape (opens : Bool) (p : Place) : Shape Phrase :=
  oneOf [row [p.next (row [tok ".", .word]), .ref (.tail opens p)],
    row [p.next (.ref .subscript), .ref (.tail opens p)],
    row [p.next (.ref .arguments), .ref (.tail false p)],
    if opens then row [p.next (.ref .literalBody), .ref (.tail false p)] else oneOf [],
    row [p.next (row [tok ".", inParens (oneOf [tok "type", .ref .type])]), .ref (.tail false p)],
    .nothing]

/-- The arguments of a call. -/
def argumentsShape : Shape Phrase :=
  inParens (opt (listOf (row [.ref (.expr .inside), opt (tok "...")])))

/-- The bounds of a slice from the first colon on. -/
def boundsRest : Shape Phrase :=
  row [tok ":", opt (.ref (.expr .inside)), opt (row [tok ":", .ref (.expr .inside)])]

/-- An index, type arguments or the bounds of a slice. -/
def subscriptShape : Shape Phrase :=
  inBrackets (oneOf [boundsRest,
    row [.ref (.expr .inside),
      oneOf [boundsRest, row [.many (row [tok ",", .ref (.expr .inside)]), opt (tok ",")]]]])

/-- A value in a literal, perhaps with a key. -/
def literalValueShape : Shape Phrase :=
  oneOf [.ref .literalBody, .ref (.expr .inside)]

/-- The body of a literal. -/
def literalBodyShape : Shape Phrase :=
  inBraces (opt (listOf (row [.ref .literalValue, opt (row [tok ":", .ref .literalValue])])))

/-! ## Statements -/

/-- An operator that assigns. -/
def assignOperator : Shape Phrase :=
  anyOf ["=", ":=", "+=", "-=", "*=", "/=", "%=", "&=", "|=", "^=", "<<=", ">>=", "&^="]

/-- What follows the first expressions of a simple statement. -/
def simpleRest (p : Place) : Shape Phrase :=
  oneOf [row [p.next assignOperator, .ref (.exprs p)], p.next (anyOf ["++", "--"]),
    row [p.next (tok "<-"), .ref (.expr p)]]

/-- A declaration of one or, in parentheses, any number of specifications. -/
def declarationOf (keyword : String) (spec : Phrase) : Shape Phrase :=
  row [tok keyword, oneOf [inParens (.many (row [.ref spec, .terminator])), .ref spec]]

/-- What follows the names of a constant. -/
def constRest : Shape Phrase :=
  opt (row [.onLine, opt (.ref .type), tok "=", .ref (.exprs .statement)])

/-- What follows the names of a variable. -/
def varRest : Shape Phrase :=
  oneOf [row [tok "=", .ref (.exprs .statement)],
    row [.ref .type, opt (row [.onLine, tok "=", .ref (.exprs .statement)])]]

/-- What follows the name of a type that is declared. -/
def typeRest : Shape Phrase :=
  oneOf [row [.ref .typeParameters, opt (tok "="), .ref .type], row [opt (tok "="), .ref .type]]

/-- The head of a conditional statement. -/
def ifHead : Shape Phrase :=
  oneOf [row [tok ";", .ref (.expr .head)],
    row [.ref (.exprs .head),
      oneOf [row [simpleRest .head, tok ";", .ref (.expr .head)],
        row [tok ";", .ref (.expr .head)], .nothing]]]

/-- What follows `if`. -/
def ifRest : Shape Phrase :=
  row [ifHead, .ref .block,
    opt (row [.onLine, tok "else", oneOf [row [tok "if", .ref .branch], .ref .block]])]

/-- What follows the expressions with which the head of a loop begins. -/
def forRest : Shape Phrase :=
  oneOf [row [anyOf ["=", ":="], tok "range", .ref (.expr .head)], simpleRest .head]

/-- The head of a loop. -/
def forHead : Shape Phrase :=
  oneOf [row [tok "range", .ref (.expr .head)],
    row [opt (row [.ref (.exprs .head), opt forRest]),
      opt (row [tok ";", opt (.ref (.expr .head)), tok ";", opt (.ref (.simple .head))])]]

/-- The head of a choice among values or types. -/
def switchHead : Shape Phrase :=
  row [opt (.ref (.simple .head)), opt (row [tok ";", opt (.ref (.simple .head))])]

/-- The clauses of a choice. -/
def clausesOf (case : Shape Phrase) : Shape Phrase :=
  inBraces (.many (row [oneOf [row [tok "case", case], tok "default"], tok ":", .ref .statements]))

/-- A statement. -/
def statementShape : Shape Phrase :=
  oneOf [.ref .declaration, .ref .block, tok ";", row [tok "if", .ref .branch],
    row [tok "for", forHead, .ref .block],
    row [tok "switch", switchHead, clausesOf (.ref (.exprs .inside))],
    row [tok "select", clausesOf (.ref (.simple .inside))],
    row [tok "return", opt (row [.onLine, .ref (.exprs .statement)])],
    row [anyOf ["go", "defer"], .ref (.expr .statement)],
    row [anyOf ["break", "continue"], opt (row [.onLine, .name])], row [tok "goto", .name],
    tok "fallthrough", row [.name, tok ":", opt (.ref .statement)], .ref (.simple .statement)]

/-- One import: perhaps a name, and a path. -/
def importSpec : Shape Phrase :=
  row [opt (oneOf [tok ".", .name]), .quoted]

/-! ## The grammar -/

/-- The shape of each part of a program. -/
def grammar : Phrase → Shape Phrase
  | .type => typeShape
  | .typeElement => row [Shape.ref .type, .many (row [.onLine, tok "|", .ref .type])]
  | .typeArguments => inBrackets (listOf (.ref .typeElement))
  | .typeParameters => inBrackets (listOf (row [Shape.name.commas, .ref .typeElement]))
  | .fieldList => linesOfShape fieldShape
  | .elementList => linesOfShape elementShape
  | .parameter => parameterShape
  | .parameters => inParens (opt (listOf (.ref .parameter)))
  | .signature => signatureShape
  | .expr p => row [.ref (.unary p), .many (row [p.next binaryOperator, .ref (.unary p)])]
  | .exprs p => row [.ref (.expr p), .many (row [p.next (tok ","), .ref (.expr p)])]
  | .unary p => oneOf [row [unaryOperator, .ref (.unary p)], .ref (.operand p)]
  | .operand p => operandShape p
  | .tail opens p => tailShape opens p
  | .arguments => argumentsShape
  | .subscript => subscriptShape
  | .literalBody => literalBodyShape
  | .literalValue => literalValueShape
  | .simple p => row [.ref (.exprs p), opt (simpleRest p)]
  | .declaration =>
    oneOf [declarationOf "const" .constSpec, declarationOf "var" .varSpec,
      declarationOf "type" .typeSpec]
  | .constSpec => row [Shape.name.commas, constRest]
  | .varSpec => row [Shape.name.commas, varRest]
  | .typeSpec => row [.name, typeRest]
  | .statement => statementShape
  | .statements => row [opt (.ref .statement), .many (row [.terminator, opt (.ref .statement)])]
  | .block => inBraces (.ref .statements)
  | .branch => ifRest
  | .importClause => row [tok "import", oneOf [inParens (linesOfShape importSpec), importSpec]]

/-- What follows a part of a program, if it stands at the beginning of the tokens. The fuel is
ample: no chain of names of shapes comes back to a name before a token has been taken. -/
def Phrase.accept? (n : Phrase) (ts : List Token) : Option (List Token) :=
  Shape.accept? grammar (256 * (ts.length + 1)) (.ref n) ts

/-- What follows some tokens of a shape. -/
def Shape.follow? (a : Shape Phrase) (ts : List Token) : Option (List Token) :=
  a.accept? grammar (256 * (ts.length + 1)) ts

end GoStyle
