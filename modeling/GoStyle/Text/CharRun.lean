/-!
# Runs of characters

Character properties are tables of runs: the characters from `lo` to `hi` in steps of `step`, which
is 1 for a block and 2 where upper and lower case alternate. A case mapping that moves every
character of a run by the same distance is a `CharShift`.
-/

namespace GoStyle

/-- The code points `lo`, `lo + step`, … up to `hi`. -/
structure CharRun where
  lo : Nat
  hi : Nat
  step : Nat
deriving Repr, DecidableEq

/-- Whether the code point `n` lies on the run. -/
def CharRun.has (r : CharRun) (n : Nat) : Bool :=
  r.lo ≤ n && n ≤ r.hi && (n - r.lo) % r.step == 0

/-- A run whose characters are all mapped by the same distance. -/
structure CharShift where
  run : CharRun
  delta : Int
deriving Repr, DecidableEq

/-- Whether `c` lies on a run of the table. -/
def inRuns (table : List CharRun) (c : Char) : Bool :=
  table.any (·.has c.toNat)

/-- The image of `c` under the first shift whose run has it. -/
def shiftOf? (table : List CharShift) (c : Char) : Option Char :=
  (table.find? (·.run.has c.toNat)).map fun s => Char.ofNat ((c.toNat : Int) + s.delta).toNat

end GoStyle
