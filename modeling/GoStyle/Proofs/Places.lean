import Mathlib.Data.List.Lex
import Mathlib.Data.Prod.Lex
import GoStyle.Lint.Collector

/-!
# Places and subjects

Two views of a problem decide what becomes of it. Its `place`, file, line and column, says where it
is listed: `Problem.le` is the order of places (`Problem.le_iff`), which is total. Its `subject`,
what it says about which position, says what it repeats: twins are problems with one subject
(`Problem.twin_iff`). The offset belongs to the subject and not to the place, so twins stand at the
same place (`Problem.place_eq_of_twin`) and not the other way round.
-/

namespace GoStyle

/-! ## Places -/

/-- Where a problem is listed: file, line and column. -/
def Problem.place (p : Problem) : List (List ℕ) ×ₗ ℕ ×ₗ ℕ :=
  toLex (p.position.file.key, toLex (p.position.line, p.position.column))

/-- Problems are listed in the order of their places. -/
theorem Problem.le_iff (p q : Problem) : p.le q ↔ p.place ≤ q.place := by
  unfold Problem.le Problem.place
  rw [decide_eq_true_iff, Prod.Lex.toLex_le_toLex, Prod.Lex.toLex_le_toLex]

theorem Problem.le_trans (p q r : Problem) (hpq : p.le q) (hqr : q.le r) : p.le r := by
  rw [Problem.le_iff] at *
  exact hpq.trans hqr

theorem Problem.le_total (p q : Problem) : p.le q || q.le p := by
  rw [Bool.or_eq_true, Problem.le_iff, Problem.le_iff]
  exact total_of (· ≤ ·) p.place q.place

/-! ## Subjects -/

/-- What a problem says about which position, the file by its components. -/
def Problem.subject (p : Problem) : List Component × ℕ × ℕ × ℕ × String :=
  (p.position.file.components, p.position.line, p.position.column, p.position.offset, p.text)

/-- Twins are the problems with one subject. -/
theorem Problem.twin_iff (p q : Problem) : p.twin q ↔ p.subject = q.subject := by
  simp [Problem.twin, Position.same, Path.same, Problem.subject, and_assoc]

theorem Problem.twin_refl (p : Problem) : p.twin p := by
  rw [Problem.twin_iff]

theorem Problem.twin_trans (p q r : Problem) (hpq : p.twin q) (hqr : q.twin r) : p.twin r := by
  rw [Problem.twin_iff] at *
  exact hpq.trans hqr

theorem Problem.twin_comm (p q : Problem) : p.twin q = q.twin p := by
  rw [Bool.eq_iff_iff, Problem.twin_iff, Problem.twin_iff]
  exact eq_comm

/-- Twins stand at the same place. -/
theorem Problem.place_eq_of_twin {p q : Problem} (h : p.twin q) : p.place = q.place := by
  rw [Problem.twin_iff] at h
  simp only [Problem.subject, Prod.mk.injEq] at h
  obtain ⟨hfile, hline, hcolumn, -, -⟩ := h
  simp only [Problem.place, Path.key, hfile, hline, hcolumn]

/-- Twins are told apart by no order of places. -/
theorem Problem.le_of_twin {p q : Problem} (h : p.twin q) : p.le q := by
  rw [Problem.le_iff, Problem.place_eq_of_twin h]

end GoStyle
