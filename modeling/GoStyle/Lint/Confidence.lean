import GoStyle.Decimal.Layout
import GoStyle.Lint.Problem

/-!
# Confidence thresholds

A problem is reported only if its confidence reaches a threshold, which lies above 0 and is at most
1.
-/

namespace GoStyle

/-- A threshold for confidences. -/
structure MinConfidence where
  value : Float
  valid : 0 < value ∧ value ≤ 1

/-- The threshold with the given value, if it may be one. -/
def MinConfidence.ofFloat? (x : Float) : Option MinConfidence :=
  if h : 0 < x ∧ x ≤ 1 then some ⟨x, h⟩ else none

/-- The threshold in force when none is given. -/
def defaultMinConfidence : Float :=
  0.8

/-- Whether a confidence reaches the threshold. -/
def MinConfidence.admits (m : MinConfidence) (confidence : Float) : Bool :=
  m.value ≤ confidence

/-- The problems that reach the threshold, in order. -/
def MinConfidence.filter (m : MinConfidence) (ps : List Problem) : List Problem :=
  ps.filter fun p => m.admits p.confidence

end GoStyle
