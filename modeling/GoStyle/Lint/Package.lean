import GoStyle.Lint.Policy
import GoStyle.Source.File

/-!
# Packages

Some rules judge a file by what stands in the other files of its package. `PackageContext.build`
gathers these facts in one pass over all files: the name, whether a package comment exists, which
files are generated, which sort methods each type has, and the receiver name that each type's
methods used first. A type is sortable when it has all three sort methods, wherever they are
declared.
-/

namespace GoStyle

/-! ## Sort methods -/

/-- Which of the methods that make a type sortable have been seen. -/
structure SortMethods where
  len : Bool
  less : Bool
  swap : Bool
deriving Repr, DecidableEq

/-- No method has been seen. -/
def SortMethods.none : SortMethods :=
  ⟨false, false, false⟩

/-- Whether the method name is one of those that make a type sortable. -/
def isSortMethod (name : String) : Bool :=
  name == "Len" || name == "Less" || name == "Swap"

/-- The methods seen when one more is. -/
def SortMethods.see (m : SortMethods) (name : String) : SortMethods where
  len := m.len || name == "Len"
  less := m.less || name == "Less"
  swap := m.swap || name == "Swap"

/-- Whether all of them have been seen. -/
def SortMethods.complete (m : SortMethods) : Bool :=
  m.len && m.less && m.swap

/-- Note a method of a type. -/
def seeMethod (type name : String) : List (String × SortMethods) → List (String × SortMethods)
  | [] => [(type, SortMethods.none.see name)]
  | (t, m) :: rest =>
    if t = type then (t, m.see name) :: rest else (t, m) :: seeMethod type name rest

/-! ## The context -/

/-- What holds of a package as a whole. -/
structure PackageContext where
  name : String
  documented : Bool
  generated : List Path
  sortMethods : List (String × SortMethods)
  receiverNames : List (String × String)
deriving Repr, DecidableEq

/-- The context of no files. -/
def PackageContext.empty (name : String) : PackageContext :=
  ⟨name, false, [], [], []⟩

/-- Whether a receiver name says nothing about its type. -/
def isGenericReceiver (name : String) : Bool :=
  name == "this" || name == "self"

/-- Whether a receiver name can set the name for its type. -/
def isEligibleReceiver (name : String) : Bool :=
  name != "_" && !isGenericReceiver name

/-- The receiver name that the package uses for a type. -/
def PackageContext.receiverName? (c : PackageContext) (type : String) : Option String :=
  c.receiverNames.lookup type

/-- Take in a method. Only those whose receiver type can be named count. -/
def PackageContext.addMethod (c : PackageContext) (f : FuncDecl) : PackageContext :=
  match f.receiverType? with
  | none => c
  | some type =>
    let sortMethods :=
      if isSortMethod f.name.name then seeMethod type f.name.name c.sortMethods else c.sortMethods
    let receiverNames :=
      match f.receiverName? with
      | some name =>
        if isEligibleReceiver name && (c.receiverName? type).isNone then
          c.receiverNames ++ [(type, name)]
        else c.receiverNames
      | none => c.receiverNames
    { c with sortMethods, receiverNames }

/-- Whether a comment before the package clause marks the file as generated. -/
def SourceFile.isGenerated (f : SourceFile) (policy : Policy) : Bool :=
  f.leadingComments.any fun g => g.lines.any policy.isGeneratedMarker

/-- Take in a file. A package comment in a test file does not count. -/
def PackageContext.addFile (policy : Policy) (c : PackageContext) (f : SourceFile) :
    PackageContext :=
  f.methods.foldl PackageContext.addMethod
    { c with
      documented := c.documented || (f.packageDoc.isSome && !f.isTest)
      generated := if f.isGenerated policy then f.path :: c.generated else c.generated }

/-- The context of a package's files; the first one gives the name. -/
def PackageContext.build (files : List SourceFile) (policy : Policy) : PackageContext :=
  files.foldl (PackageContext.addFile policy)
    (PackageContext.empty ((files.head?.map (·.package.name)).getD ""))

/-! ## Questions -/

/-- Whether the package is a command. -/
def PackageContext.isMain (c : PackageContext) : Bool :=
  c.name == "main"

/-- Whether a type has all sort methods. -/
def PackageContext.isSortable (c : PackageContext) (type : String) : Bool :=
  match c.sortMethods.lookup type with
  | some m => m.complete
  | none => false

/-- Whether the file at a path is generated. -/
def PackageContext.isGenerated (c : PackageContext) (path : Path) : Bool :=
  c.generated.any path.same

end GoStyle
