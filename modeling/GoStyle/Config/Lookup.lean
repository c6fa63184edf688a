import GoStyle.Config
import GoStyle.Tree.Workdir

/-!
# Where configurations are found

A path that is given explicitly is taken as it is. Otherwise the nearest directory counts, from a
start upward, that holds a configuration file; the search goes no further than the root of the
module, which holds a `go.mod`. If it finds nothing, a configuration in the user's own directory
does, if there is one.
-/

namespace GoStyle

/-- Where a configuration comes from. -/
inductive ConfigSource where
  | explicit (path : Path)
  | project (path : Path)
  | global (path : Path)
  | builtin
deriving Repr, DecidableEq

/-- The file of a configuration. -/
def ConfigSource.path? : ConfigSource → Option Path
  | .explicit p | .project p | .global p => some p
  | .builtin => none

/-- Whether the configuration is the user's own. -/
def ConfigSource.isGlobal : ConfigSource → Bool
  | .global _ => true
  | _ => false

/-- The names of configuration files in a project; of two in one directory the first counts. -/
def projectConfigNames : List String :=
  ["golint.toml", ".golint.toml"]

/-- The name of the file in the root directory of a module. -/
def moduleFileName : String :=
  "go.mod"

/-- The name of the configuration file in the user's own directory. -/
def globalConfigName : String :=
  "config.toml"

/-- A directory to search: its path, and which names are those of files in it. -/
structure SearchDir where
  path : Path
  holds : String → Bool

/-- The locations from the top down to a location. -/
def Location.downward : Location → List Location
  | [] => [[]]
  | name :: l => [] :: (Location.downward l).map (name :: ·)

/-- The locations from a location upward to the top. -/
def Location.upward (l : Location) : List Location :=
  l.downward.reverse

/-- The directories to search from a start upward: the true ones if the start exists, and otherwise
those that its path names. -/
def Workdir.searchDirs (w : Workdir) (start : Path) : List SearchDir :=
  match w.locate start with
  | .ok l => l.upward.map fun d => ⟨d.path, fun name => w.tree.isFile (d ++ [name])⟩
  | .error _ => start.ancestors.map fun p => ⟨p, fun name => w.isFile (p.join name)⟩

/-- The first configuration file in directories, up to the root of a module. -/
def findProjectConfig? : List SearchDir → Option Path
  | [] => none
  | d :: ds =>
    match projectConfigNames.find? d.holds with
    | some name => some (d.path.join name)
    | none => if d.holds moduleFileName then none else findProjectConfig? ds

/-- The configuration for sources at `start`. -/
def Workdir.findConfig (w : Workdir) (start : Path) (explicit globalDir : Option Path) :
    ConfigSource :=
  match explicit with
  | some p => .explicit p
  | none =>
    match findProjectConfig? (w.searchDirs start) with
    | some p => .project p
    | none =>
      match globalDir.map fun d => d.join globalConfigName with
      | some p => if w.has p then .global p else .builtin
      | none => .builtin

end GoStyle
