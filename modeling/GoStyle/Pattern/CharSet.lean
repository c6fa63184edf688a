import GoStyle.Text.Blank
import GoStyle.Text.Word

/-!
# Sets of characters

The sets that a marker pattern can name: ranges and classes, put together by union, intersection and
complement. `anyCase` adds to a set every character that differs from a member only in case.
-/

namespace GoStyle

/-- A set of characters. -/
inductive CharSet where
  | none
  | range (lo hi : Char)
  | digit
  | blank
  | word
  | letter
  | upper
  | lower
  | marked
  | union (s t : CharSet)
  | inter (s t : CharSet)
  | compl (s : CharSet)
  | anyCase (s : CharSet)
deriving Repr, DecidableEq

/-- Whether `c` is a letter of some script. -/
def isLetter (c : Char) : Bool :=
  (isIdentStart c && c != '_' && !inRuns letterMissingRuns c) || inRuns letterExtraRuns c

/-- The characters that a table of shifts maps to `c`. -/
def preimages (table : List CharShift) (c : Char) : List Char :=
  table.filterMap fun s =>
    let n : Int := (c.toNat : Int) - s.delta
    if 0 ≤ n && s.run.has n.toNat then some (Char.ofNat n.toNat) else none

/-- The characters that differ from `c` only in case, `c` included. -/
def caseVariants (c : Char) : List Char :=
  let low := foldCase c
  let high := match upperOf low with
    | [u] => u
    | _ => low
  ([c, low, high] ++ preimages lowerShifts low ++ preimages upperShifts high).filter
    (foldCase · == low)

/-- Whether `c` is a member. -/
def CharSet.has : CharSet → Char → Bool
  | .none, _ => false
  | .range lo hi, c => lo ≤ c && c ≤ hi
  | .digit, c => isDigit c
  | .blank, c => isBlank c
  | .word, c => isWordChar c
  | .letter, c => isLetter c
  | .upper, c => isUpper c
  | .lower, c => isLower c
  | .marked, c => isCaseIgnorable c
  | .union s t, c => s.has c || t.has c
  | .inter s t, c => s.has c && t.has c
  | .compl s, c => !s.has c
  | .anyCase s, c => (caseVariants c).any s.has

/-- The set of one character. -/
def CharSet.single (c : Char) : CharSet :=
  .range c c

/-- Every character. -/
def CharSet.all : CharSet :=
  .compl .none

/-- The ASCII characters. -/
def CharSet.ascii : CharSet :=
  .range (Char.ofNat 0) (Char.ofNat 127)

/-- The members of `s` that are not in `t`. -/
def CharSet.diff (s t : CharSet) : CharSet :=
  .inter s (.compl t)

/-- The union of several sets. -/
def CharSet.unions (sets : List CharSet) : CharSet :=
  sets.foldl .union .none

end GoStyle
