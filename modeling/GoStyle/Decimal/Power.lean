/-!
# Powers of two and ten

The powers by which binary and decimal numbers are scaled.
-/

namespace GoStyle

/-- Two to the `n`. -/
def twoTo (n : Nat) : Nat :=
  Nat.pow 2 n

/-- Ten to the `n`. -/
def tenTo (n : Nat) : Nat :=
  Nat.pow 10 n

end GoStyle
