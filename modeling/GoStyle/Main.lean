import GoStyle.Command.Run

/-!
# The program

Finds out what the disk holds of the directories that a command line names, runs the command on that
tree, prints what it says and writes the files it has changed. Everything that is decided is decided
by `run`.
-/

namespace GoStyle

/-- What has been found on the disk. -/
structure Found where
  dirs : List Location
  files : List FileEntry

/-- The location that a path leads to by its text alone. -/
def Location.resolve (here : Location) (p : Path) : Location :=
  p.components.foldl (fun l c =>
    match c with
    | .root => []
    | .here => l
    | .up => l.dropLast
    | .name s => l ++ [s]) here

/-- Whether the text of a file of this name may be needed. -/
def isOfInterest (name : String) : Bool :=
  (Path.mk name).isGo || name == globalConfigName || projectConfigNames.contains name

/-- What stands at a path, if anything does. -/
def kindOf (path : String) : IO (Option IO.FS.FileType) := do
  try
    let p ← IO.FS.realPath path
    return some (← p.metadata).type
  catch _ => return none

/-- Read a file, unless its text is of no interest. -/
def readEntry (l : Location) (needed : Bool) : IO FileEntry := do
  if needed then return ⟨l, String.fromUTF8? (← IO.FS.readBinFile l.path.text)⟩
  else return ⟨l, none⟩

/-- Add what is at a location: a file, or a directory with what is directly in it or, if asked, with
all that is below. -/
partial def explore (deep : Bool) (l : Location) (found : Found) : IO Found := do
  match ← kindOf l.path.text with
  | some .dir =>
    let mut found := { found with dirs := l.downward ++ found.dirs }
    for entry in ← (← IO.FS.realPath l.path.text).readDir do
      let inside := l ++ [entry.fileName]
      match ← kindOf inside.path.text with
      | some .dir =>
        found := { found with dirs := inside :: found.dirs }
        if deep && !isSkippedDir entry.fileName then
          found ← explore deep inside found
      | some .file =>
        let file ← readEntry inside (isOfInterest entry.fileName)
        found := { found with files := file :: found.files }
      | _ => pure ()
    return found
  | some .file =>
    let file ← readEntry l true
    return ⟨Location.downward l.dropLast ++ found.dirs, file :: found.files⟩
  | _ => return found

/-- Add the files that make a directory the root of a module or configure what is below it. -/
def exploreUpward (start : Location) (found : Found) : IO Found := do
  let mut found := found
  for dir in start.upward do
    for name in moduleFileName :: projectConfigNames do
      found ← explore false (dir ++ [name]) found
  return found

/-- The locations that a command depends on, each with whether all below it counts. -/
def Invocation.interests (here : Location) (env : Environment) (i : Invocation) :
    List (Bool × Location) :=
  let config := (i.config.toList.map fun p => (false, here.resolve ⟨p⟩)) ++
    env.globalDir?.toList.map fun p => (false, here.resolve p)
  match i.command with
  | .check o =>
    (false, here) :: config ++ o.paths.flatMap fun arg =>
      (false, here.resolve ⟨arg⟩) ::
        (recursiveRoot? arg).toList.map fun root => (true, here.resolve ⟨root⟩)
  | .listRules => []
  | .init _ => [(false, here)]

/-- The tree of what has been found, the first of two files at one location counting. -/
def Found.tree (f : Found) : Tree :=
  let files := f.files.foldl (fun kept e =>
    if kept.any fun k => k.location == e.location then kept else e :: kept) []
  (Tree.ofEntries? (f.dirs.eraseDups.filter fun l => !l.isEmpty) files).getD Tree.empty

/-- What the disk holds of the locations that a command depends on. -/
def Invocation.found (here : Location) (env : Environment) (i : Invocation) : IO Found := do
  let mut found : Found := ⟨here.downward, []⟩
  for (deep, l) in i.interests here env do
    found ← explore deep l found
    found ← exploreUpward l found
  return found

/-- Write the files that are in the second tree but not in the first. -/
def writeChanges (before after : Tree) : IO Unit := do
  for f in after.files do
    if !before.files.contains f then
      if let some text := f.text then IO.FS.writeFile f.location.path.text text

/-- Print an outcome. -/
def Outcome.print (o : Outcome) : IO Unit := do
  for n in o.notices do
    IO.eprintln ("WARN " ++ n.text)
  IO.print o.stdout
  IO.eprint o.stderr

end GoStyle

open GoStyle in
/-- Run the command line and exit with its status. -/
def main (args : List String) : IO UInt32 := do
  let here := Location.resolve [] ⟨(← IO.currentDir).toString⟩
  let env : Environment :=
    ⟨← IO.getEnv "GOLINT_CONFIG", ← IO.getEnv "GOLINT_CONFIG_DIR", ← IO.getEnv "HOME"⟩
  let found ← match Invocation.ofArguments env.config args with
    | .ok i => i.found here env
    | .error _ => pure ⟨here.downward, []⟩
  let workdir : Workdir := ⟨found.tree, here⟩
  let outcome := run workdir env args
  outcome.print
  writeChanges workdir.tree outcome.workdir.tree
  return outcome.exitCode.toUInt32
