import GoStyle.Text.LetterCase
import GoStyle.Text.WordTable

/-!
# Identifier and word characters

Which characters may start and continue a Go identifier, and which count as word characters and
digits in marker patterns.
-/

namespace GoStyle

/-- Whether `c` may start an identifier: a letter of any script or an underscore. -/
def isIdentStart (c : Char) : Bool :=
  if isAscii c then isAsciiUpper c || isAsciiLower c || c == '_' else inRuns identStartRuns c

/-- Whether `c` may continue an identifier. -/
def isIdentPart (c : Char) : Bool :=
  if isAscii c then isAsciiUpper c || isAsciiLower c || isAsciiDigit c || c == '_'
  else inRuns identStartRuns c || inRuns identExtraRuns c

/-- Whether `c` is a decimal digit of any script. -/
def isDigit (c : Char) : Bool :=
  inRuns digitRuns c

/-- Whether `c` is a word character: a letter, mark, digit or connector of any script. -/
def isWordChar (c : Char) : Bool :=
  (isIdentPart c && !inRuns wordMissingRuns c) || inRuns wordExtraRuns c

/-- Whether a name is exported: its first character is upper-case. -/
def isExported (name : String) : Bool :=
  match name.toList with
  | [] => false
  | c :: _ => isUpper c

end GoStyle
