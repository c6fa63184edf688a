import GoStyle.Decimal.Power

/-!
# Decimal numerals to doubles

A decimal `mant · 10 ^ exp` is read as the double nearest to it, a tie going to the even one, by
exact arithmetic: `roundDiv` rounds a quotient, `scaleFor` picks the power of two under which the
quotient has 53 bits, and `nearestBits` packs the result. Beyond the largest double the result is
infinity, below the smallest one zero.
-/

namespace GoStyle

/-- The quotient rounded to the nearest natural number, a tie to the even one. -/
def roundDiv (num den : Nat) : Nat :=
  let q := num / den
  let r := num % den
  if den < 2 * r then q + 1
  else if 2 * r = den then q + q % 2
  else q

/-- The quotient of `num / (den · 2 ^ e)`, as a pair to be divided. -/
def scaled (num den : Nat) (e : Int) : Nat × Nat :=
  (num * twoTo (-e).toNat, den * twoTo e.toNat)

/-- The exponent `e` for which `num / den / 2 ^ e` lies between `2 ^ 52` and `2 ^ 53`, but never
less than that of the smallest doubles. -/
def scaleFor (num den : Nat) : Int :=
  let guess : Int := (num.log2 : Int) - (den.log2 : Int) - 52
  let whole := fun (e : Int) => (scaled num den e).1 / (scaled num den e).2
  let e := if whole guess < twoTo 52 then guess - 1 else guess
  max e (-1074)

/-- The bits of the double nearest to `num / den`. -/
def nearestBits (num den : Nat) : Nat :=
  if num = 0 then 0
  else
    let e := scaleFor num den
    let m := roundDiv (scaled num den e).1 (scaled num den e).2
    let (m, e) := if m = twoTo 53 then (twoTo 52, e + 1) else (m, e)
    if 971 < e then 2047 * twoTo 52
    else if m < twoTo 52 then m
    else (e + 1075).toNat * twoTo 52 + (m - twoTo 52)

/-- The double nearest to `mant · 10 ^ exp`, negated if asked. Numerals far outside the range of
doubles are settled by their size alone. -/
def nearestDouble (negative : Bool) (mant : Nat) (exp : Int) : Float :=
  let size : Int := ((Nat.toDigits 10 mant).length : Int) + exp
  let bits :=
    if mant = 0 || size < -400 then 0
    else if 400 < size then 2047 * twoTo 52
    else nearestBits (mant * tenTo exp.toNat) (tenTo (-exp).toNat)
  Float.ofBits (UInt64.ofNat (if negative then bits + twoTo 63 else bits))

/-- The double nearest to an integer. -/
def doubleOfInt (n : Int) : Float :=
  nearestDouble (n < 0) n.natAbs 0

end GoStyle
