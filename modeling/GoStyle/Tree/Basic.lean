/-!
# Directory trees

A tree is a set of directories and a set of files, each at a location: the names that lead to it
from the top. `Tree.Sound` says what makes such sets a tree, and every `Tree` carries a proof of it:
names are names, no location is used twice, and everything lies in a directory. There are no links.

`Tree.isDir`, `Tree.fileAt?`, `Tree.filesIn` and `Tree.filesUnder` look things up, and `Tree.put`
writes a file.
-/

namespace GoStyle

/-- The names that lead to an entry from the top; the top itself has none. -/
abbrev Location := List String

/-- A file. Its text is missing if its bytes are no text. -/
structure FileEntry where
  location : Location
  text : Option String
deriving Repr, DecidableEq

/-- Whether a text can be the name of an entry. -/
def isEntryName (s : String) : Bool :=
  s != "" && s != "." && s != ".." && !s.toList.contains '/'

/-- Whether a location is the top or one of the given. -/
def isTopOr (dirs : List Location) (l : Location) : Bool :=
  l.isEmpty || dirs.contains l

/-- The locations of directories below the top, and of files. -/
def allLocations (dirs : List Location) (files : List FileEntry) : List Location :=
  dirs ++ files.map FileEntry.location

/-- Whether directories and files make up a tree. -/
def Tree.Sound (dirs : List Location) (files : List FileEntry) : Prop :=
  (allLocations dirs files).Nodup ∧
    ∀ l ∈ allLocations dirs files,
      l ≠ [] ∧ l.all isEntryName = true ∧ isTopOr dirs l.dropLast = true

instance (dirs : List Location) (files : List FileEntry) : Decidable (Tree.Sound dirs files) :=
  inferInstanceAs (Decidable (_ ∧ _))

/-- Directories, of which the top is not listed, and files. -/
structure Tree where
  dirs : List Location
  files : List FileEntry
  sound : Tree.Sound dirs files

/-- The tree that has nothing below the top. -/
def Tree.empty : Tree :=
  ⟨[], [], by decide⟩

/-- The tree of some directories and files, if they make up one. -/
def Tree.ofEntries? (dirs : List Location) (files : List FileEntry) : Option Tree :=
  if h : Tree.Sound dirs files then some ⟨dirs, files, h⟩ else none

/-! ## Looking things up -/

/-- Whether there is a directory at a location. -/
def Tree.isDir (t : Tree) (l : Location) : Bool :=
  isTopOr t.dirs l

/-- The file at a location. -/
def Tree.fileAt? (t : Tree) (l : Location) : Option FileEntry :=
  t.files.find? fun f => f.location == l

/-- Whether there is a file at a location. -/
def Tree.isFile (t : Tree) (l : Location) : Bool :=
  (t.fileAt? l).isSome

/-- Whether there is anything at a location. -/
def Tree.has (t : Tree) (l : Location) : Bool :=
  t.isDir l || t.isFile l

/-- The names that lead from the first location to the second, if the second is not outside. -/
def Location.below? : Location → Location → Option (List String)
  | [], names => some names
  | m :: top, n :: l => if m = n then Location.below? top l else none
  | _ :: _, [] => none

/-- The names that lead from a location to the files at or below it, in order. -/
def Tree.filesUnder (t : Tree) (l : Location) : List (List String) :=
  (t.files.filterMap fun f => l.below? f.location).mergeSort fun a b => !decide (b < a)

/-- The names of the files directly in a directory, in order. -/
def Tree.filesIn (t : Tree) (l : Location) : List String :=
  (t.filesUnder l).filterMap fun
    | [name] => some name
    | _ => none

/-! ## Writing -/

/-- A file with another text if it is the one at the given location. -/
def FileEntry.updated (l : Location) (text : String) (f : FileEntry) : FileEntry :=
  if f.location = l then { f with text := some text } else f

/-- New texts leave all files where they are. -/
theorem allLocations_updated (dirs : List Location) (files : List FileEntry) (l : Location)
    (text : String) :
    allLocations dirs (files.map (FileEntry.updated l text)) = allLocations dirs files := by
  have h : FileEntry.location ∘ FileEntry.updated l text = FileEntry.location := by
    funext f
    unfold Function.comp FileEntry.updated
    split <;> rfl
  rw [allLocations, List.map_map, h, allLocations]

/-- The tree with a text at a location: in the file there, or in a new one if that makes a tree. -/
def Tree.put (t : Tree) (l : Location) (text : String) : Tree :=
  if t.isFile l then
    ⟨t.dirs, t.files.map (FileEntry.updated l text), by
      unfold Tree.Sound
      rw [allLocations_updated]
      exact t.sound⟩
  else (Tree.ofEntries? t.dirs (⟨l, some text⟩ :: t.files)).getD t

/-- Writing a file makes no directory and removes none. -/
theorem Tree.isDir_put (t : Tree) (l : Location) (text : String) (d : Location) :
    (t.put l text).isDir d = t.isDir d := by
  unfold Tree.put
  split
  · rfl
  · unfold Tree.ofEntries?
    split <;> rfl

end GoStyle
