/-!
# White space

The characters that count as white space when lines are trimmed, and trimming itself. Text is
handled as a list of characters here; `trim` and its halves have counterparts on `String`.
-/

namespace GoStyle

/-- White space: the control characters from tab to carriage return, the space, and the separators
and spaces of the wider character set. -/
def isBlank (c : Char) : Bool :=
  let n := c.toNat
  (9 ≤ n && n ≤ 13) || n == 0x20 || n == 0x85 || n == 0xA0 || n == 0x1680 ||
    (0x2000 ≤ n && n ≤ 0x200A) || n == 0x2028 || n == 0x2029 || n == 0x202F || n == 0x205F ||
    n == 0x3000

/-- Drop leading white space. -/
def trimStart (s : List Char) : List Char :=
  s.dropWhile isBlank

/-- Drop trailing white space. -/
def trimEnd (s : List Char) : List Char :=
  (s.reverse.dropWhile isBlank).reverse

/-- A text without white space at either end. -/
def trimmed (s : String) : String :=
  String.ofList (trimEnd (trimStart s.toList))

end GoStyle
