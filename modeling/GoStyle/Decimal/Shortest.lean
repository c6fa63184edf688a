import GoStyle.Decimal.Power

/-!
# Fewest decimal digits

Every finite double other than zero is a dyadic number `mant · 2 ^ exp`, and the reals that are read
as it form an interval around it (`Dyadic.readsBack`). `Dyadic.shortest` finds the decimal with the
fewest digits in that interval: for 1, 2, … 17 digits it tries the two neighbours of the value on
the grid of that many digits, and of two that read back takes the nearer.
-/

namespace GoStyle

/-- The number `mant · 2 ^ exp`; below a power of two the next smaller double is only half as far as
the next larger one. -/
structure Dyadic where
  mant : Nat
  exp : Int
  narrowBelow : Bool
deriving Repr, DecidableEq

/-- The decimal `digits · 10 ^ exp`. -/
structure Numeral where
  digits : Nat
  exp : Int
deriving Repr, DecidableEq

/-- The dyadic number in the bits of a finite double, its sign left aside. -/
def Dyadic.ofBits (bits : Nat) : Dyadic :=
  let e : Nat := bits / twoTo 52 % twoTo 11
  let f : Nat := bits % twoTo 52
  if e = 0 then ⟨f, -1074, false⟩ else ⟨twoTo 52 + f, (e : Int) - 1075, f == 0 && 1 < e⟩

/-- Compare `a · 10 ^ i` with `n · 2 ^ j`. -/
def compareScaled (a : Nat) (i : Int) (n : Nat) (j : Int) : Ordering :=
  compare (a * tenTo i.toNat * twoTo (-j).toNat) (n * twoTo j.toNat * tenTo (-i).toNat)

/-- Whether the decimal is among the reals that are read as `x`: from halfway to the neighbour below
to halfway to the neighbour above, the ends included when `x.mant` is even. -/
def Dyadic.readsBack (x : Dyadic) (d : Numeral) : Bool :=
  let low := compareScaled d.digits d.exp (4 * x.mant - if x.narrowBelow then 1 else 2) (x.exp - 2)
  let high := compareScaled d.digits d.exp (4 * x.mant + 2) (x.exp - 2)
  let ends := x.mant % 2 == 0
  (low == .gt || (ends && low == .eq)) && (high == .lt || (ends && high == .eq))

/-- `x` divided by `10 ^ e`, rounded down. -/
def Dyadic.wholeTens (x : Dyadic) (e : Int) : Nat :=
  x.mant * twoTo x.exp.toNat * tenTo (-e).toNat / (twoTo (-x.exp).toNat * tenTo e.toNat)

/-- The least `k` with `x < 10 ^ k`, searched upwards from `k`. -/
def Dyadic.magnitude (x : Dyadic) : Nat → Int → Int
  | 0, k => k
  | n + 1, k => if x.wholeTens k = 0 then k else x.magnitude n (k + 1)

/-- The decimal on the grid `10 ^ e` that reads back as `x` and is nearest to it. -/
def Dyadic.onGrid? (x : Dyadic) (e : Int) : Option Numeral :=
  let d := x.wholeTens e
  let below : Numeral := ⟨d, e⟩
  let above : Numeral := ⟨d + 1, e⟩
  match x.readsBack below, x.readsBack above with
  | true, false => some below
  | false, true => some above
  | false, false => none
  | true, true =>
    some (if compareScaled (2 * d + 1) e (2 * x.mant) x.exp == .gt then below else above)

/-- Drop trailing zeros, at most as many as the first argument says. -/
def Numeral.strip : Nat → Numeral → Numeral
  | 0, d => d
  | n + 1, d => if d.digits % 10 = 0 && d.digits != 0 then strip n ⟨d.digits / 10, d.exp + 1⟩ else d

/-- The decimal with the fewest digits that is read as `x`. -/
def Dyadic.shortest (x : Dyadic) : Numeral :=
  let start : Int := ((x.mant.log2 : Int) + x.exp) * 30103 / 100000 - 1
  let k := x.magnitude 5 start
  ((List.range 17).findSome? fun n => x.onGrid? (k - (n + 1 : Nat))).elim
    ⟨x.wholeTens (k - 17), k - 17⟩ (·.strip 20)

end GoStyle
