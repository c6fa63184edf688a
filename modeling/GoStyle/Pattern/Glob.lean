import GoStyle.Path

/-!
# Glob patterns

Patterns for the paths of files: `?` stands for a character, `*` for any characters, `**` for any
directories, and brackets for a character of a class. Slashes are ordinary characters to all of them
but `**`, which has to be a whole component of the pattern and ends only behind a slash or at the
end of the path. `Glob.ofText?` has no answer for a text that is no pattern.

Matching tries the shortest run first. A run that fails because the path has ended would fail at any
later character too, so `GlobOutcome` tells the two failures apart and the search stops there.
-/

namespace GoStyle

/-! ## Patterns -/

/-- A part of a class: the characters from the first to the second. -/
structure CharSpan where
  first : Char
  last : Char
deriving Repr, DecidableEq

/-- Whether a character is in one of the spans. -/
def inSpans (spans : List CharSpan) (c : Char) : Bool :=
  spans.any fun s => decide (s.first ≤ c ∧ c ≤ s.last)

/-- A part of a pattern. -/
inductive GlobPart where
  | char (c : Char)
  | any
  | within (spans : List CharSpan)
  | except (spans : List CharSpan)
  | run
  | dirs
deriving Repr, DecidableEq

/-- A pattern for paths. -/
structure Glob where
  parts : List GlobPart
deriving Repr, DecidableEq

/-! ## Reading -/

/-- The spans that the characters between two brackets stand for. -/
def charSpans : List Char → List CharSpan
  | c :: '-' :: d :: s => ⟨c, d⟩ :: charSpans s
  | c :: s => ⟨c, c⟩ :: charSpans s
  | [] => []

/-- The characters up to the first closing bracket, and those behind it. -/
def uptoBracket? : List Char → Option (List Char × List Char)
  | [] => none
  | ']' :: s => some ([], s)
  | c :: s => (uptoBracket? s).map fun (inside, rest) => (c :: inside, rest)

/-- A class whose opening bracket has been read, and what follows it. The first character of a class
does not close it. -/
def readClass? : List Char → Option (GlobPart × List Char)
  | '!' :: c :: s =>
    (uptoBracket? s).map fun (inside, rest) => (.except (charSpans (c :: inside)), rest)
  | '!' :: [] => none
  | c :: s => (uptoBracket? s).map fun (inside, rest) => (.within (charSpans (c :: inside)), rest)
  | [] => none

/-- The parts of a pattern, of which `limit` bounds the number; `boundary` tells whether a component
begins here. -/
def readGlob? : Nat → Bool → List Char → Option (List GlobPart)
  | 0, _, _ => none
  | _ + 1, _, [] => some []
  | limit + 1, boundary, '*' :: '*' :: s =>
    if !boundary then none
    else match s with
      | [] => some [.dirs]
      | '/' :: s => (readGlob? limit true s).map (.dirs :: ·)
      | _ :: _ => none
  | limit + 1, _, '*' :: s => (readGlob? limit false s).map (.run :: ·)
  | limit + 1, _, '?' :: s => (readGlob? limit false s).map (.any :: ·)
  | limit + 1, _, '[' :: s =>
    match readClass? s with
    | some (part, s) => (readGlob? limit false s).map (part :: ·)
    | none => none
  | limit + 1, _, c :: s => (readGlob? limit (c == '/') s).map (.char c :: ·)

/-- The pattern that a text is, if it is one. -/
def Glob.ofText? (text : String) : Option Glob :=
  (readGlob? (text.length + 1) true text.toList).map Glob.mk

/-! ## Matching -/

/-- How an attempt to match ends. -/
inductive GlobOutcome where
  | matches
  | differs
  | runsOut
deriving Repr, DecidableEq

/-- Whether a part that stands for one character admits it. -/
def GlobPart.admits (c : Char) : GlobPart → Bool
  | .char d => c == d
  | .any => true
  | .within spans => inSpans spans c
  | .except spans => !inSpans spans c
  | .run | .dirs => false

/-- Leave out characters at the front until `rest` does not differ. -/
def tryEach (rest : List Char → GlobOutcome) : List Char → GlobOutcome
  | [] => rest []
  | c :: s =>
    match rest (c :: s) with
    | .differs => tryEach rest s
    | outcome => outcome

/-- Leave out characters up to a slash, or all there are, until `rest` does not differ. -/
def tryBehindSlashes (rest : List Char → GlobOutcome) : List Char → GlobOutcome
  | [] => rest []
  | c :: s =>
    if c = '/' then
      match rest s with
      | .differs => tryBehindSlashes rest s
      | outcome => outcome
    else tryBehindSlashes rest s

/-- Match parts against all of a text. -/
def matchParts : List GlobPart → List Char → GlobOutcome
  | [], s => if s.isEmpty then .matches else .differs
  | .run :: ps, s => tryEach (matchParts ps) s
  | .dirs :: ps, s =>
    match matchParts ps s with
    | .differs => tryBehindSlashes (matchParts ps) s
    | outcome => outcome
  | _ :: _, [] => .runsOut
  | p :: ps, c :: s => if p.admits c then matchParts ps s else .differs

/-- Whether a text matches the pattern. -/
def Glob.matchesText (g : Glob) (text : String) : Bool :=
  matchParts g.parts text.toList == .matches

/-! ## Leaving files out -/

/-- Patterns from their texts, or the first text that is no pattern. -/
def readGlobs : List String → Except String (List Glob)
  | [] => .ok []
  | t :: ts =>
    match Glob.ofText? t with
    | none => .error t
    | some g => (readGlobs ts).map (g :: ·)

/-- Whether one of the patterns matches a path; a leading dot is no part of what they see. -/
def isExcluded (patterns : List Glob) (p : Path) : Bool :=
  patterns.any fun g => g.matchesText p.withoutDot.text

end GoStyle
