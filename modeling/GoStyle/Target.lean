import GoStyle.Tree.GoFiles

/-!
# Targets

What an argument stands for depends on what it leads to: a directory, with `/...` behind it also all
directories below, a file, or, if it leads nowhere, a package that is known by its import path. All
arguments have to be of one kind.
-/

namespace GoStyle

/-- What an argument stands for. -/
inductive Target where
  | dirs (paths : List Path)
  | file (path : Path)
  | package (name : String)
deriving Repr, DecidableEq

/-- The directories of a target. -/
def Target.dirPaths : Target → List Path
  | .dirs paths => paths
  | _ => []

/-- The file that a target is. -/
def Target.file? : Target → Option Path
  | .file path => some path
  | _ => none

/-- The package that a target is. -/
def Target.package? : Target → Option String
  | .package name => some name
  | _ => none

/-- What arguments of one kind stand for. -/
inductive Targets where
  | dirs (paths : List Path)
  | files (paths : List Path)
  | packages (names : List String)
deriving Repr, DecidableEq

/-- What stands before the ending that includes all directories below. -/
def recursiveRoot? (arg : String) : Option String :=
  (after? "...".toList.reverse arg.toList.reverse).bind fun
    | '/' :: s => some (String.ofList s.reverse)
    | _ => none

/-- What an argument stands for. -/
def Workdir.target (w : Workdir) (arg : String) : Target :=
  match (recursiveRoot? arg).filter fun root => w.isDir ⟨root⟩ with
  | some root => .dirs (w.packageDirs ⟨root⟩)
  | none =>
    if w.isDir ⟨arg⟩ then .dirs [⟨arg⟩]
    else if w.has ⟨arg⟩ then .file ⟨arg⟩
    else .package arg

/-- What arguments stand for, if they are of one kind. No arguments stand for the working directory.
-/
def Workdir.targets? (w : Workdir) (args : List String) : Option Targets :=
  if args.isEmpty then some (.dirs [⟨"."⟩])
  else
    let found := args.map w.target
    match found.flatMap Target.dirPaths, found.filterMap Target.file?,
        found.filterMap Target.package? with
    | dirs, [], [] => some (.dirs dirs)
    | [], files, [] => some (.files files)
    | [], [], names => some (.packages names)
    | _, _, _ => none

/-- The directory in which the search for a configuration starts: that of the first argument. -/
def Workdir.configRoot (w : Workdir) (args : List String) : Path :=
  match args.head? with
  | none => ⟨"."⟩
  | some arg =>
    let first : Path := ⟨(recursiveRoot? arg).getD arg⟩
    if w.isDir first then first
    else
      match first.parent? with
      | some p => if p.text = "" then ⟨"."⟩ else p
      | none => ⟨"."⟩

end GoStyle
