import GoStyle.Lint.Problem

/-!
# Reports

The problems of a package, or of several packages one after the other, and the number of files that
were looked at.
-/

namespace GoStyle

/-- The outcome of looking at some files. -/
structure Report where
  problems : List Problem
  filesChecked : Nat

/-- The report on no files. -/
def Report.empty : Report :=
  ⟨[], 0⟩

/-- Whether nothing was found. -/
def Report.isClean (r : Report) : Bool :=
  r.problems.isEmpty

/-- Two reports, one after the other. -/
def Report.append (r s : Report) : Report :=
  ⟨r.problems ++ s.problems, r.filesChecked + s.filesChecked⟩

/-- Count one more under a key, the keys kept in order. -/
def tally (key : String) : List (String × Nat) → List (String × Nat)
  | [] => [(key, 1)]
  | (k, n) :: t =>
    if k = key then (k, n + 1) :: t
    else if key < k then (key, 1) :: (k, n) :: t
    else (k, n) :: tally key t

/-- The number of problems in each category, the categories in order. -/
def Report.countByCategory (r : Report) : List (String × Nat) :=
  r.problems.foldl (fun t p => tally p.category t) []

end GoStyle
