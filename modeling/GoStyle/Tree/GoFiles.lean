import GoStyle.Distinct
import GoStyle.Text.Affix
import GoStyle.Tree.Workdir

/-!
# Go files in a tree

`Workdir.goFilesIn` lists the Go files directly in a directory, and `Workdir.packageDirs` the
directories at or below a root that have such files. Directories that are named `vendor` or
`testdata` or begin with a dot or an underscore are left out with all that is in them, but the root
itself never is.
-/

namespace GoStyle

/-- A path that could not be read, and why. -/
structure ReadFault where
  path : Path
  fault : FileFault
deriving Repr, DecidableEq

/-- The text of a fault in reading. -/
def ReadFault.message (e : ReadFault) : String :=
  "Failed to read " ++ e.path.text

/-- The Go files directly in a directory, in the order of their names. -/
def Workdir.goFilesIn (w : Workdir) (dir : Path) : Except ReadFault (List Path) :=
  match w.locate dir with
  | .error e => .error ⟨dir, e⟩
  | .ok l =>
    if w.tree.isDir l then .ok (((w.tree.filesIn l).map dir.join).filter Path.isGo)
    else .error ⟨dir, .notDirectory⟩

/-- Whether a directory of this name below a root is left out. -/
def isSkippedDir (name : String) : Bool :=
  beginsWith "." name || beginsWith "_" name || ["vendor", "testdata"].contains name

/-- The path of the names inside a directory. -/
def Path.joinAll (dir : Path) (names : List String) : Path :=
  names.foldl Path.join dir

/-- The Go files at or below a root, in the order of their names, with none in a directory that is
left out. -/
def Workdir.goFilesUnder (w : Workdir) (root : Path) : List Path :=
  match w.locate root with
  | .error _ => []
  | .ok l =>
    let found := (w.tree.filesUnder l).filter fun names => !names.dropLast.any isSkippedDir
    (found.map root.joinAll).filter Path.isGo

/-- The directories at or below a root that have Go files. -/
def Workdir.packageDirs (w : Workdir) (root : Path) : List Path :=
  distinctBy Path.same ((w.goFilesUnder root).filterMap Path.parent?)

end GoStyle
