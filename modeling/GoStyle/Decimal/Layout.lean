import GoStyle.Decimal.Nearest
import GoStyle.Decimal.Shortest

/-!
# Writing doubles

Three ways to write a double: `plainText` with the fewest digits and never an exponent, `dataText`
with the fewest digits, always a fraction or an exponent, as data formats want it, and `fixedText`
with a given number of places.
-/

namespace GoStyle

/-- What a double is, apart from its sign. -/
inductive Magnitude where
  | undefined
  | infinite
  | zero
  | finite (x : Dyadic)
deriving Repr, DecidableEq

/-- Whether the sign bit is set, and what follows it. -/
def classify (x : Float) : Bool × Magnitude :=
  let bits := x.toBits.toNat
  let rest := bits % twoTo 63
  (twoTo 63 ≤ bits,
    if 2047 * twoTo 52 < rest then .undefined
    else if rest = 2047 * twoTo 52 then .infinite
    else if rest = 0 then .zero
    else .finite (Dyadic.ofBits rest))

/-- The decimal digits of a number. -/
def digitsOf (n : Nat) : List Char :=
  Nat.toDigits 10 n

/-- Digits with a point that leaves `point` of them in front, zeros filling the gap on either side.
Without a fraction there is no point. -/
def placePoint (digits : List Char) (point : Int) : List Char :=
  if point ≤ 0 then '0' :: '.' :: (List.replicate (-point).toNat '0' ++ digits)
  else if (digits.length : Int) ≤ point then
    digits ++ List.replicate (point.toNat - digits.length) '0'
  else digits.take point.toNat ++ '.' :: digits.drop point.toNat

/-- A number's text with its sign. -/
def signed (negative : Bool) (s : List Char) : List Char :=
  if negative then '-' :: s else s

/-- The fewest digits that read back, never with an exponent: `1`, `0.8`, `-0`, `NaN`, `inf`. -/
def plainText (x : Float) : String :=
  let (negative, m) := classify x
  match m with
  | .undefined => "NaN"
  | .infinite => String.ofList (signed negative ['i', 'n', 'f'])
  | .zero => String.ofList (signed negative ['0'])
  | .finite d =>
    let n := d.shortest
    let digits := digitsOf n.digits
    String.ofList (signed negative (placePoint digits (digits.length + n.exp)))

/-- The fewest digits that read back, with a fraction (`1.0`) or, from `1e16` on and below `1e-5`,
an exponent (`1e-7`, `1.5e300`); none for a double that is not finite. -/
def dataText? (x : Float) : Option String :=
  let (negative, m) := classify x
  match m with
  | .undefined | .infinite => none
  | .zero => some (String.ofList (signed negative ['0', '.', '0']))
  | .finite d =>
    let n := d.shortest
    let digits := digitsOf n.digits
    let point : Int := digits.length + n.exp
    let text :=
      if 0 ≤ n.exp && point ≤ 16 then placePoint digits point ++ ['.', '0']
      else if -5 < point && point ≤ 16 then placePoint digits point
      else
        digits.take 1 ++ (if digits.length = 1 then [] else '.' :: digits.drop 1) ++
          'e' :: signed (point - 1 < 0) (digitsOf (point - 1).natAbs)
    some (String.ofList (signed negative text))

/-- The dyadic number times `10 ^ places`, rounded to the nearest integer, a tie to the even one. -/
def Dyadic.roundTo (x : Dyadic) (places : Nat) : Nat :=
  roundDiv (x.mant * twoTo x.exp.toNat * tenTo places) (twoTo (-x.exp).toNat)

/-- A double with exactly `places` places after the point. -/
def fixedText (places : Nat) (x : Float) : String :=
  let (negative, m) := classify x
  match m with
  | .undefined => "NaN"
  | .infinite => String.ofList (signed negative ['i', 'n', 'f'])
  | .zero => String.ofList (signed negative (write 0))
  | .finite d => String.ofList (signed negative (write (d.roundTo places)))
where
  /-- `n` of the last place's units, with at least one digit in front of the point. -/
  write (n : Nat) : List Char :=
    let digits := digitsOf n
    let digits := List.replicate (places + 1 - digits.length) '0' ++ digits
    digits.take (digits.length - places) ++
      if places = 0 then [] else '.' :: digits.drop (digits.length - places)

end GoStyle
