import GoStyle.Distinct
import GoStyle.Lint.Problem

/-!
# Collecting problems

Problems arrive in any order and leave in the order of file, line and column, those with the same
place in order of arrival (`sortProblems`). Of problems with the same position, offset included, and
the same text only the first stays (`dropTwins`).
-/

namespace GoStyle

/-- Whether `p` comes before `q` by file, line and column, or ties with it. -/
def Problem.le (p q : Problem) : Bool :=
  decide (p.position.file.key < q.position.file.key ∨
    p.position.file.key = q.position.file.key ∧
      (p.position.line < q.position.line ∨
        p.position.line = q.position.line ∧ p.position.column ≤ q.position.column))

/-- Problems in the order of their places; the order among equals is kept. -/
def sortProblems (ps : List Problem) : List Problem :=
  ps.mergeSort Problem.le

/-- Problems without those that say what an earlier one has said about the same position. -/
def dropTwins (ps : List Problem) : List Problem :=
  distinctBy Problem.twin ps

/-- The ordered problems without repetitions. -/
def collect (ps : List Problem) : List Problem :=
  dropTwins (sortProblems ps)

end GoStyle
