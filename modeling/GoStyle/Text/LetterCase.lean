import GoStyle.Text.CharRun
import GoStyle.Text.CaseTable

/-!
# Letter case

Upper and lower case of characters and words, for all scripts. The upper-case form of one character
may have several (`ß` becomes `SS`), and a capital sigma at the end of a word becomes `ς` rather
than `σ`. The letters of ASCII are decided before any table is read, so that what is proved about
ASCII words does not depend on the tables.
-/

namespace GoStyle

/-! ## ASCII -/

/-- Whether `c` is one of `A` to `Z`. -/
def isAsciiUpper (c : Char) : Bool :=
  'A' ≤ c && c ≤ 'Z'

/-- Whether `c` is one of `a` to `z`. -/
def isAsciiLower (c : Char) : Bool :=
  'a' ≤ c && c ≤ 'z'

/-- Whether `c` is one of `0` to `9`. -/
def isAsciiDigit (c : Char) : Bool :=
  '0' ≤ c && c ≤ '9'

/-- Whether `c` is an ASCII character. -/
def isAscii (c : Char) : Bool :=
  c.toNat < 128

/-- The lower-case form of an ASCII capital; any other character stays. -/
def asciiLower (c : Char) : Char :=
  if isAsciiUpper c then Char.ofNat (c.toNat + 32) else c

/-- The capital of an ASCII lower-case letter; any other character stays. -/
def asciiUpper (c : Char) : Char :=
  if isAsciiLower c then Char.ofNat (c.toNat - 32) else c

/-- Whether two texts are equal when the case of ASCII letters is ignored. -/
def equalIgnoringAsciiCase (s t : List Char) : Bool :=
  s.map asciiLower == t.map asciiLower

/-! ## Classes -/

/-- Whether `c` is an upper-case character. -/
def isUpper (c : Char) : Bool :=
  if isAscii c then isAsciiUpper c else inRuns upperRuns c

/-- Whether `c` is a lower-case character. -/
def isLower (c : Char) : Bool :=
  if isAscii c then isAsciiLower c else inRuns lowerRuns c

/-- Whether `c` takes part in letter case at all. -/
def isCased (c : Char) : Bool :=
  isUpper c || isLower c || inRuns titleRuns c

/-- Whether `c` is passed over when a word's end is looked for. -/
def isCaseIgnorable (c : Char) : Bool :=
  inRuns caseIgnorableRuns c

/-! ## Mappings -/

/-- The image of `c` in a table of shifts and a table of expansions. -/
def caseImage (shifts : List CharShift) (expansions : List (Nat × List Nat)) (c : Char) :
    List Char :=
  match expansions.find? (·.1 == c.toNat) with
  | some e => e.2.map Char.ofNat
  | none => [(shiftOf? shifts c).getD c]

/-- The upper-case form of a character. -/
def upperOf (c : Char) : List Char :=
  if isAscii c then [asciiUpper c] else caseImage upperShifts upperExpansions c

/-- The lower-case form of a character that does not depend on its place in a word. -/
def lowerOf (c : Char) : List Char :=
  if isAscii c then [asciiLower c] else caseImage lowerShifts lowerExpansions c

/-- A word in upper case. -/
def toUpper (s : List Char) : List Char :=
  s.flatMap upperOf

/-- Whether the first character that is not passed over takes part in letter case. -/
def startsCased (s : List Char) : Bool :=
  match s.dropWhile isCaseIgnorable with
  | [] => false
  | c :: _ => isCased c

/-- A word in lower case, `before` being what precedes it, last character first: a capital sigma
after a letter and before none is the final one. -/
def toLowerAfter (before : List Char) : List Char → List Char
  | [] => []
  | c :: s =>
    (if c = 'Σ' then
      [if startsCased before && !startsCased s then 'ς' else 'σ']
    else lowerOf c) ++ toLowerAfter (c :: before) s

/-- A word in lower case. -/
def toLower (s : List Char) : List Char :=
  toLowerAfter [] s

/-- The case of a character folded away: two characters that differ only in case have the same fold.
The dotless `ı` has no partner. -/
def foldCase (c : Char) : Char :=
  if c = 'ı' then c
  else
    let u := match upperOf c with
      | [u] => u
      | _ => c
    match lowerOf u with
    | [l] => l
    | _ => u

end GoStyle
