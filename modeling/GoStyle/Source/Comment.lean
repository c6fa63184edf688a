import GoStyle.Source.Position
import GoStyle.Text.Blank
import GoStyle.Text.Lines

/-!
# Comments

`commentText` is the prose of a comment: markers, the first space of a line comment and tool
directives are taken away (`bodies`), then trailing white space, blank lines at either end and all
but one of adjacent blank lines (`squeeze`). A `CommentGroup` keeps the lines of adjacent comments
as they were written, with their prose.
-/

namespace GoStyle

/-! ## Bodies -/

/-- The text before the first `*/`, if there is one. -/
def beforeClose? : List Char → Option (List Char)
  | [] => none
  | '*' :: '/' :: _ => some []
  | c :: s => (beforeClose? s).map (c :: ·)

/-- Whether the text after `//` is an instruction to a tool. -/
def isDirective (s : List Char) : Bool :=
  "go:".toList.isPrefixOf s || "line ".toList.isPrefixOf s

/-- The text after `//` without one leading space. -/
def withoutSpace : List Char → List Char
  | ' ' :: s => s
  | s => s

/-- The bodies of the comments in a list of lines; `open?` says whether the line begins inside a
block comment. Of a line that closes a block only what precedes the `*/` counts, without the white
space in front; lines outside all comments have no body. -/
def bodies : Bool → List (List Char) → List (List Char)
  | _, [] => []
  | true, l :: ls =>
    match beforeClose? (trimStart l) with
    | some body => body :: bodies false ls
    | none => l :: bodies true ls
  | false, l :: ls =>
    match trimStart l with
    | '/' :: '/' :: rest =>
      if isDirective rest then bodies false ls else withoutSpace rest :: bodies false ls
    | '/' :: '*' :: rest =>
      match beforeClose? rest with
      | some body => body :: bodies false ls
      | none => rest :: bodies true ls
    | _ => bodies false ls

/-! ## Blank lines -/

/-- Drop blank lines at the start and all but one of adjacent blank lines. `gap` says whether a
blank line would be superfluous here. -/
def squeezeFrom : Bool → List (List Char) → List (List Char)
  | _, [] => []
  | gap, [] :: ls => if gap then squeezeFrom true ls else [] :: squeezeFrom true ls
  | _, l :: ls => l :: squeezeFrom false ls

/-- Drop blank lines at both ends and all but one of adjacent blank lines. -/
def squeeze (ls : List (List Char)) : List (List Char) :=
  ((squeezeFrom true ls).reverse.dropWhile List.isEmpty).reverse

/-- Every line with a line feed after it. -/
def closeLines (ls : List (List Char)) : List Char :=
  ls.flatMap (· ++ ['\n'])

/-- The prose of the comments in a text. -/
def commentProse (raw : List Char) : List Char :=
  closeLines (squeeze ((bodies false (splitLines raw)).map trimEnd))

/-- The prose of the comments in a text. -/
def commentText (raw : String) : String :=
  String.ofList (commentProse raw.toList)

/-! ## Groups -/

/-- Comments on adjacent lines: where the first begins, the line on which the last ends, their
prose, and their lines as written. -/
structure CommentGroup where
  pos : Pos
  endLine : Nat
  text : String
  lines : List String
deriving Repr, DecidableEq, Inhabited

/-- The group of comments given as written, one line of the group for each of theirs. -/
def CommentGroup.ofRaw (pos : Pos) (comments : List String) : CommentGroup :=
  let lines := comments.flatMap fun c => splitLines c.toList
  { pos
    endLine := pos.line + (lines.length - 1)
    text := String.ofList (commentProse (joinLines lines))
    lines := lines.map String.ofList }

end GoStyle
