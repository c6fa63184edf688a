import GoStyle.Decimal.Nearest

/-!
# Reading decimal numerals

The texts of numbers as a user types them: digits with a point anywhere among them, an exponent, a
sign in front of either, and the words `inf`, `infinity` and `nan` in any letter case. `readDouble?`
gives the double nearest to the number.
-/

namespace GoStyle

/-- The number that decimal digits stand for, if there are any and nothing else. -/
def naturalOf? (s : List Char) : Option Nat :=
  if s.isEmpty || !s.all Char.isDigit then none
  else some (s.foldl (fun n c => n * 10 + (c.toNat - '0'.toNat)) 0)

/-- Whether a minus sign stands in front, and what follows the sign. -/
def splitSign : List Char → Bool × List Char
  | '-' :: s => (true, s)
  | '+' :: s => (false, s)
  | s => (false, s)

/-- The exponent that a numeral ends in, 0 if there is none. -/
def exponentOf? : List Char → Option Int
  | [] => some 0
  | c :: s =>
    if c = 'e' || c = 'E' then
      let (negative, digits) := splitSign s
      (naturalOf? digits).map fun n => if negative then -(n : Int) else n
    else none

/-- The digits up to a point, those behind it, and the rest. -/
def splitPoint (s : List Char) : List Char × List Char × List Char :=
  let rest := s.dropWhile Char.isDigit
  match rest with
  | '.' :: t => (s.takeWhile Char.isDigit, t.takeWhile Char.isDigit, t.dropWhile Char.isDigit)
  | _ => (s.takeWhile Char.isDigit, [], rest)

/-- The double nearest to a numeral without a sign. -/
def readNumeral? (negative : Bool) (s : List Char) : Option Float :=
  let (whole, fraction, rest) := splitPoint s
  match naturalOf? (whole ++ fraction), exponentOf? rest with
  | some mant, some e => some (nearestDouble negative mant (e - (fraction.length : Int)))
  | _, _ => none

/-- The double nearest to the number that a text is, if it is one. -/
def readDouble? (text : String) : Option Float :=
  let (negative, s) := splitSign text.toList
  let word := String.ofList (s.map Char.toLower)
  if word = "inf" || word = "infinity" then
    some (if negative then -1.0 / 0.0 else 1.0 / 0.0)
  else if word = "nan" then some (0.0 / 0.0)
  else readNumeral? negative s

end GoStyle
