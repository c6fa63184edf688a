import GoStyle.Lint.Rules.Stutter
import GoStyle.Proofs.Gathering

/-!
# Declared names

The names that a file declares, each with the kind of thing it is given to, in the order in which
the declarations list them (`SourceFile.declared`). Both rules that look at the names of functions,
types and values are told by them: the rule on stuttering names has at most one problem with each
(`FileContext.flatMap_stutters`), and the rule on names has some problems with each, one name after
the other (`FileContext.declsNameFaults_eq_gather_declared`).
-/

namespace GoStyle

/-! ## Names and kinds -/

/-- What a name is given to. -/
inductive NameKind where
  | type
  | func
  | method
  | value (kind : ValueKind)
deriving Repr, DecidableEq

/-- How problems call what a name is given to. -/
def NameKind.word : NameKind → String
  | .type => "type"
  | .func => "func"
  | .method => "method"
  | .value kind => kind.keyword

/-- The kind of the values that a name is given to, if it is given to values. -/
def NameKind.value? : NameKind → Option ValueKind
  | .value kind => some kind
  | _ => none

/-- A declared name and what it is given to. -/
structure DeclaredName where
  kind : NameKind
  ident : Ident
deriving Repr, DecidableEq

/-- Whether the testing tool gives a meaning to the name in a test file. -/
def DeclaredName.isForTests (d : DeclaredName) : Bool :=
  (d.kind == .func || d.kind == .method) && isTestFuncName d.ident.name

/-- The names that a declaration declares. -/
def Decl.declared : Decl → List DeclaredName
  | .type d => d.specs.map fun s => ⟨.type, s.name⟩
  | .func f => [⟨if f.isMethod then .method else .func, f.name⟩]
  | .value d => (d.specs.flatMap (·.names)).map fun id => ⟨.value d.kind, id⟩

/-- The names that a file declares. -/
def SourceFile.declared (file : SourceFile) : List DeclaredName :=
  file.decls.flatMap Decl.declared

/-! ## What rules say about a name -/

namespace FileContext

/-- The problem with a declared name that stutters; methods cannot. -/
def declaredStutter (c : FileContext) (d : DeclaredName) : Option Problem :=
  if d.kind = .method then none else c.stutter d.kind.word d.ident

/-- What is wrong with a declared name. -/
def declaredFaults (c : FileContext) (d : DeclaredName) : Except RuleFault (List Problem) :=
  if c.file.isTest && d.isForTests then .ok []
  else c.nameFaults d.kind.word d.kind.value? d.ident

theorem stutters_eq_filterMap (c : FileContext) (d : Decl) :
    c.stutters d = d.declared.filterMap c.declaredStutter := by
  cases d with
  | type d =>
    rw [Decl.declared, List.filterMap_map]
    rfl
  | func f =>
    rw [stutters, Decl.declared, List.filterMap_cons, List.filterMap_nil, declaredStutter]
    cases f.isMethod
    · cases hfound : c.stutter "func" f.name <;> simp [NameKind.word, hfound]
    · rfl
  | value d =>
    rw [Decl.declared, List.filterMap_map]
    rfl

/-- The rule on stuttering names goes through the names that the file declares. -/
theorem flatMap_stutters (c : FileContext) :
    c.file.decls.flatMap c.stutters = c.file.declared.filterMap c.declaredStutter := by
  rw [SourceFile.declared, List.filterMap_flatMap]
  exact List.flatMap_congr fun d _ => c.stutters_eq_filterMap d

theorem declNameFaults_eq_gather (c : FileContext) (d : Decl) :
    c.declNameFaults d = gather c.declaredFaults d.declared := by
  cases d with
  | type d =>
    rw [declNameFaults, collectFaults_eq_gather, Decl.declared, gather_map, gather_map]
    simp [declaredFaults, DeclaredName.isForTests, NameKind.word, NameKind.value?]
  | func f =>
    rw [declNameFaults, Decl.declared, gather_singleton, declaredFaults]
    cases f.isMethod <;> rfl
  | value d =>
    rw [declNameFaults, collectFaults_eq_gather, Decl.declared, gather_map]
    simp [declaredFaults, DeclaredName.isForTests, NameKind.word, NameKind.value?]

/-- The rule on names goes through the names that the file declares. -/
theorem declsNameFaults_eq_gather_declared (c : FileContext) :
    c.declsNameFaults c.file.decls = gather c.declaredFaults c.file.declared := by
  rw [declsNameFaults_eq_gather, SourceFile.declared, ← gather_gather]
  exact congrArg (gather · c.file.decls) (funext c.declNameFaults_eq_gather)

end FileContext

end GoStyle
