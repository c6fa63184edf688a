import GoStyle.Path
import GoStyle.Source.Comment

/-!
# Source files

What a rule can see of a source file: its package clause, the comment groups before it, its text,
and its top-level declarations in order, imports left out.
-/

namespace GoStyle

/-! ## Declarations -/

/-- The receiver of a method: its name, if it has one, and the name of its type, if that is a plain
named type, possibly behind a pointer, in parentheses or instantiated. -/
structure Receiver where
  name : Option Ident
  typeName : Option String
deriving Repr, DecidableEq

/-- A function, or a method if it has a receiver. -/
structure FuncDecl where
  pos : Pos
  name : Ident
  receiver : Option Receiver
  doc : Option CommentGroup
deriving Repr, DecidableEq

/-- Whether the declaration is a method. -/
def FuncDecl.isMethod (f : FuncDecl) : Bool :=
  f.receiver.isSome

/-- The type of the receiver, if it can be named. -/
def FuncDecl.receiverType? (f : FuncDecl) : Option String :=
  f.receiver.bind (·.typeName)

/-- The name of the receiver, if it has one. -/
def FuncDecl.receiverName? (f : FuncDecl) : Option String :=
  f.receiver.bind fun r => r.name.map (·.name)

/-- One type of a type declaration, with the comment on it. -/
structure TypeSpec where
  name : Ident
  doc : Option CommentGroup
deriving Repr, DecidableEq

/-- A type declaration, in parentheses if `grouped`. -/
structure TypeDecl where
  pos : Pos
  grouped : Bool
  doc : Option CommentGroup
  specs : List TypeSpec
deriving Repr, DecidableEq

/-- Whether values are constants or variables. -/
inductive ValueKind where
  | const
  | var
deriving Repr, DecidableEq

/-- The keyword of a value declaration. -/
def ValueKind.keyword : ValueKind → String
  | .const => "const"
  | .var => "var"

/-- The names that one line of a value declaration declares, with the comment on it. -/
structure ValueSpec where
  pos : Pos
  names : List Ident
  doc : Option CommentGroup
deriving Repr, DecidableEq

/-- A value declaration, in parentheses if `grouped`. -/
structure ValueDecl where
  kind : ValueKind
  pos : Pos
  grouped : Bool
  doc : Option CommentGroup
  specs : List ValueSpec
deriving Repr, DecidableEq

/-- A top-level declaration. -/
inductive Decl where
  | type (d : TypeDecl)
  | func (d : FuncDecl)
  | value (d : ValueDecl)
deriving Repr, DecidableEq

/-- The function or method that a declaration declares. -/
def Decl.func? : Decl → Option FuncDecl
  | .func f => some f
  | _ => none

/-! ## Files -/

/-- A source file of a package. -/
structure SourceFile where
  path : Path
  package : Ident
  packagePos : Pos
  packageDoc : Option CommentGroup
  leadingComments : List CommentGroup
  content : String
  decls : List Decl
deriving Repr, DecidableEq

/-- A file that holds nothing but the clause of the given package. -/
def SourceFile.empty (path : Path) (package : String) : SourceFile where
  path
  package := ⟨package, ⟨1, 9, 8⟩⟩
  packagePos := Pos.start
  packageDoc := none
  leadingComments := []
  content := ""
  decls := []

/-- Whether the file holds tests. -/
def SourceFile.isTest (f : SourceFile) : Bool :=
  f.path.isTest

/-- The line of the file's text with the given number. -/
def SourceFile.line (f : SourceFile) (n : Nat) : String :=
  lineAt f.content n

/-- The functions and methods of the file. -/
def SourceFile.funcs (f : SourceFile) : List FuncDecl :=
  f.decls.filterMap Decl.func?

/-- The methods of the file. -/
def SourceFile.methods (f : SourceFile) : List FuncDecl :=
  f.funcs.filter (·.isMethod)

end GoStyle
