import GoStyle.Path
import GoStyle.Tree.Basic

/-!
# Working directories

A tree is used from a working directory, from which paths lead. `Workdir.locate` follows a path
piece by piece: every piece but the last has to be a directory, and so has whatever an empty piece,
`.` or `..` follows. `Workdir.read` and `Workdir.write` are what a program does with files.
-/

namespace GoStyle

/-! ## Faults -/

/-- Why a path cannot be used. -/
inductive FileFault where
  | missing
  | notDirectory
  | isDirectory
  | notText
deriving Repr, DecidableEq

/-- The text of a fault. -/
def FileFault.message : FileFault → String
  | .missing => "No such file or directory (os error 2)"
  | .notDirectory => "Not a directory (os error 20)"
  | .isDirectory => "Is a directory (os error 21)"
  | .notText => "stream did not contain valid UTF-8"

/-! ## Following paths -/

/-- A tree and the location of the working directory. -/
structure Workdir where
  tree : Tree
  here : Location

/-- The path of a location, from the top. -/
def Location.path (l : Location) : Path :=
  ⟨"/" ++ String.intercalate "/" l⟩

/-- The location that the pieces of a path lead to from a location. -/
def Tree.follow (t : Tree) : Location → List String → Except FileFault Location
  | l, [] => if t.has l then .ok l else .error .missing
  | l, s :: pieces =>
    if t.isDir l then
      if s = "" || s = "." then t.follow l pieces
      else if s = ".." then t.follow l.dropLast pieces
      else t.follow (l ++ [s]) pieces
    else if t.isFile l then .error .notDirectory
    else .error .missing

/-- The location that a path leads to. -/
def Workdir.locate (w : Workdir) (p : Path) : Except FileFault Location :=
  match p.text.toList with
  | [] => .error .missing
  | c :: s =>
    w.tree.follow (if c = '/' then [] else w.here) ((splitSlash (c :: s)).map String.ofList)

/-- Whether a path leads anywhere. -/
def Workdir.has (w : Workdir) (p : Path) : Bool :=
  match w.locate p with
  | .ok _ => true
  | .error _ => false

/-- Whether a path leads to a directory. -/
def Workdir.isDir (w : Workdir) (p : Path) : Bool :=
  match w.locate p with
  | .ok l => w.tree.isDir l
  | .error _ => false

/-- Whether a path leads to a file. -/
def Workdir.isFile (w : Workdir) (p : Path) : Bool :=
  match w.locate p with
  | .ok l => w.tree.isFile l
  | .error _ => false

/-! ## Reading and writing -/

/-- The text of the file that a path leads to. -/
def Workdir.read (w : Workdir) (p : Path) : Except FileFault String :=
  match w.locate p with
  | .error e => .error e
  | .ok l =>
    match w.tree.fileAt? l with
    | none => .error .isDirectory
    | some f =>
      match f.text with
      | none => .error .notText
      | some s => .ok s

/-- Write a text to the file of the given name in the working directory. -/
def Workdir.write (w : Workdir) (name text : String) : Except FileFault Workdir :=
  let l := w.here ++ [name]
  if w.tree.isDir l then .error .isDirectory
  else if w.tree.isDir w.here then .ok { w with tree := w.tree.put l text }
  else .error .missing

end GoStyle
