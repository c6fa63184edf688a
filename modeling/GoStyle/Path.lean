import GoStyle.Text.Lines

/-!
# Paths

A path is kept as it was written and compared by its components: repeated slashes, a trailing slash
and `.` anywhere but in front are no components, `..` stays. `Path.same` and `Path.le` compare by
components, with the root before a leading `.`, that before `..`, and names last, ordered by
character. `Path.parent?`, `Path.join` and `Path.withoutDot` work on the text, so that what is
printed later is what was given.
-/

namespace GoStyle

/-- A path as written. -/
structure Path where
  text : String
deriving Repr, DecidableEq, Inhabited

/-! ## Pieces and components -/

/-- A component of a path. -/
inductive Component where
  | root
  | here
  | up
  | name (s : String)
deriving Repr, DecidableEq

/-- The pieces between slashes; there is one more than there are slashes. -/
def splitSlash : List Char → List (List Char)
  | [] => [[]]
  | '/' :: s => [] :: splitSlash s
  | c :: s => consHead c (splitSlash s)

/-- Pieces with a slash between each two. -/
def joinSlash : List (List Char) → List Char
  | [] => []
  | [l] => l
  | l :: ls => l ++ '/' :: joinSlash ls

/-- There is always a first piece. -/
theorem splitSlash_ne_nil : ∀ s : List Char, splitSlash s ≠ []
  | [] => by simp [splitSlash]
  | c :: s => by
    by_cases h : c = '/'
    · subst h
      simp [splitSlash]
    · cases hs : splitSlash s <;> simp [splitSlash, consHead, hs]

/-- A character in front of the pieces is one in front of the text. -/
theorem joinSlash_consHead (c : Char) : ∀ ls : List (List Char), ls ≠ [] →
    joinSlash (consHead c ls) = c :: joinSlash ls
  | [], h => absurd rfl h
  | [_], _ => rfl
  | _ :: _ :: _, _ => rfl

/-- The pieces give back the text. -/
theorem joinSlash_splitSlash : ∀ s : List Char, joinSlash (splitSlash s) = s
  | [] => rfl
  | c :: s => by
    have ih := joinSlash_splitSlash s
    by_cases h : c = '/'
    · subst h
      rw [splitSlash]
      cases hs : splitSlash s with
      | nil => exact absurd hs (splitSlash_ne_nil s)
      | cons l ls =>
        rw [hs] at ih
        rw [joinSlash, ih, List.nil_append]
        simp
    · rw [splitSlash, joinSlash_consHead c _ (splitSlash_ne_nil s), ih]
      exact h

/-- The slash of a root or a leading dot, which are not part of the pieces. -/
def Path.lead (p : Path) : List Char :=
  match p.text.toList with
  | '/' :: _ => ['/']
  | ['.'] => ['.']
  | '.' :: '/' :: _ => ['.']
  | _ => []

/-- The pieces after the root or leading dot. -/
def Path.pieces (p : Path) : List (List Char) :=
  splitSlash (p.text.toList.drop p.lead.length)

/-- The component a piece stands for: none if it is empty or a dot. -/
def Component.ofPiece? (s : List Char) : Option Component :=
  if s = [] || s = ['.'] then none
  else if s = ['.', '.'] then some .up
  else some (.name (String.ofList s))

/-- The components of a path. -/
def Path.components (p : Path) : List Component :=
  (match p.lead with
    | ['/'] => [.root]
    | ['.'] => [.here]
    | _ => []) ++ p.pieces.filterMap Component.ofPiece?

/-- Whether two paths have the same components. -/
def Path.same (p q : Path) : Bool :=
  p.components == q.components

/-! ## Order -/

/-- A component as a list of numbers whose order is that of components. -/
def Component.key : Component → List Nat
  | .root => [0]
  | .here => [1]
  | .up => [2]
  | .name s => 3 :: s.toList.map Char.toNat

/-- A path as a key whose order is that of paths. -/
def Path.key (p : Path) : List (List Nat) :=
  p.components.map Component.key

/-- Whether `p` comes before `q` or has the same components. -/
def Path.le (p q : Path) : Bool :=
  !decide (q.key < p.key)

/-! ## Parts of a path -/

/-- The last component if it is a name. -/
def Path.fileName? (p : Path) : Option String :=
  match p.components.getLast? with
  | some (.name s) => some s
  | _ => none

/-- What follows the last dot of a file name that has something in front of that dot. -/
def extensionOf? (name : String) : Option String :=
  let s := name.toList.reverse
  match s.dropWhile (· != '.') with
  | [] | [_] => none
  | _ :: _ :: _ => some (String.ofList (s.takeWhile (· != '.')).reverse)

/-- The extension of the file name. -/
def Path.extension? (p : Path) : Option String :=
  p.fileName?.bind extensionOf?

/-- Whether the file is a Go file, judged by its extension. -/
def Path.isGo (p : Path) : Bool :=
  p.extension? == some "go"

/-- Whether the file holds tests: its name ends in `_test.go`. -/
def Path.isTest (p : Path) : Bool :=
  match p.fileName? with
  | some s => "_test.go".toList.isSuffixOf s.toList
  | none => false

/-- Whether a piece is no component. -/
def isSlack (s : List Char) : Bool :=
  (Component.ofPiece? s).isNone

/-- Pieces without those at the end that are no components. -/
def dropSlack (pieces : List (List Char)) : List (List Char) :=
  (pieces.reverse.dropWhile isSlack).reverse

/-- The path without its last component; none for a root or an empty path. -/
def Path.parent? (p : Path) : Option Path :=
  match dropSlack p.pieces with
  | [] => if p.lead = ['.'] then some ⟨""⟩ else none
  | pieces => some ⟨String.ofList (p.lead ++ joinSlash (dropSlack pieces.dropLast))⟩

/-- The path and at most `n` more that are reached by dropping last components. -/
def Path.upward : Nat → Path → List Path
  | 0, p => [p]
  | n + 1, p => p :: (match p.parent? with
    | some q => q.upward n
    | none => [])

/-- The path and all that are reached by dropping last components. -/
def Path.ancestors (p : Path) : List Path :=
  p.upward p.components.length

/-- The path of a name inside a directory; a name that starts with a slash stands for itself. -/
def Path.join (dir : Path) (name : String) : Path :=
  if name.toList.head? = some '/' then ⟨name⟩
  else if dir.text = "" || dir.text.toList.getLast? = some '/' then ⟨dir.text ++ name⟩
  else ⟨dir.text ++ "/" ++ name⟩

/-- The path without a leading dot component; any other path stays as it is. -/
def Path.withoutDot (p : Path) : Path :=
  if p.lead = ['.'] then ⟨String.ofList (joinSlash (dropSlack (p.pieces.dropWhile isSlack)))⟩ else p

end GoStyle
