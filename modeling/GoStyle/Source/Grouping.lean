import GoStyle.Source.File

/-!
# Grouping files into packages

Files belong to one package if they lie in the same directory and their package clauses agree.
`groupPackages` sorts files into packages: the packages come in the order of directory and name, the
files of each in the order in which they were given.
-/

namespace GoStyle

/-- Files of a package. -/
structure PackageFiles where
  dir : Path
  name : String
  files : List SourceFile
deriving Repr, DecidableEq

/-- The directory that holds a file; the empty path if its own path names none. -/
def SourceFile.dir (f : SourceFile) : Path :=
  f.path.parent?.getD ⟨""⟩

/-- Whether a file belongs to a package. -/
def PackageFiles.holds (g : PackageFiles) (f : SourceFile) : Bool :=
  g.dir.same f.dir && g.name == f.package.name

/-- Whether the package of a file comes before a package. -/
def PackageFiles.after (g : PackageFiles) (f : SourceFile) : Bool :=
  decide (f.dir.key < g.dir.key ∨ f.dir.key = g.dir.key ∧ f.package.name < g.name)

/-- Put a file behind the others of its package. -/
def addToPackage (f : SourceFile) : List PackageFiles → List PackageFiles
  | [] => [⟨f.dir, f.package.name, [f]⟩]
  | g :: gs =>
    if g.holds f then { g with files := g.files ++ [f] } :: gs
    else if g.after f then ⟨f.dir, f.package.name, [f]⟩ :: g :: gs
    else g :: addToPackage f gs

/-- Files sorted into packages. -/
def groupPackages (files : List SourceFile) : List PackageFiles :=
  files.foldl (fun gs f => addToPackage f gs) []

end GoStyle
