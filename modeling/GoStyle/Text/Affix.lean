/-!
# The two ends of a text

Tests on how a text begins and ends, and cuts at a number of bytes. `splitBytes?` cuts only between
characters, so it fails inside a character and behind the end, and its two halves give back the
text.
-/

namespace GoStyle

/-! ## Beginnings and ends -/

/-- Whether `s` begins with `p`. -/
def beginsWith (p s : String) : Bool :=
  p.toList.isPrefixOf s.toList

/-- Whether `s` ends with `p`. -/
def endsWith (p s : String) : Bool :=
  p.toList.isSuffixOf s.toList

/-- What follows `p` in a text that begins with it. -/
def after? : List Char → List Char → Option (List Char)
  | [], s => some s
  | c :: p, d :: s => if c = d then after? p s else none
  | _ :: _, [] => none

/-! ## Cuts -/

/-- The first `n` bytes and the rest, if a character ends there. -/
def splitBytes? : Nat → List Char → Option (List Char × List Char)
  | 0, s => some ([], s)
  | _ + 1, [] => none
  | n + 1, c :: s =>
    if c.utf8Size ≤ n + 1 then
      (splitBytes? (n + 1 - c.utf8Size) s).map fun (a, b) => (c :: a, b)
    else none

end GoStyle
