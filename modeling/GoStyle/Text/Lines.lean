/-!
# Lines

A text is cut at every line feed. A carriage return directly before the line feed belongs to the
line's end, not to the line, and the empty remainder after the last line feed is no line.
`joinLines` puts line feeds between lines.
-/

namespace GoStyle

/-- Put `c` in front of the first line; with no line there is now one. -/
def consHead (c : Char) : List (List Char) → List (List Char)
  | [] => [[c]]
  | l :: ls => (c :: l) :: ls

/-- The lines of a text, without their ends. -/
def splitLines : List Char → List (List Char)
  | [] => []
  | '\n' :: s => [] :: splitLines s
  | '\r' :: '\n' :: s => [] :: splitLines s
  | c :: s => consHead c (splitLines s)

/-- The lines of a text. -/
def linesOf (s : String) : List String :=
  (splitLines s.toList).map String.ofList

/-- Lines with a line feed between each two. -/
def joinLines : List (List Char) → List Char
  | [] => []
  | [l] => l
  | l :: ls => l ++ '\n' :: joinLines ls

/-- The line with the given number, counted from 1; empty if there is none. -/
def lineAt (s : String) (n : Nat) : String :=
  match n with
  | 0 => ""
  | n + 1 => ((linesOf s)[n]?).getD ""

end GoStyle
