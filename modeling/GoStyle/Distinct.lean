/-!
# Lists without repetitions

`distinctBy` keeps the first of all items that are the same in some respect, in the order in which they
were given.
-/

namespace GoStyle

variable {α : Type}

/-- The items that repeat neither one of `seen` nor an earlier one. -/
def distinctAfter (same : α → α → Bool) (seen : List α) : List α → List α
  | [] => []
  | a :: as =>
    if seen.any (same a) then distinctAfter same seen as else a :: distinctAfter same (a :: seen) as

/-- The items that do not repeat an earlier one. -/
def distinctBy (same : α → α → Bool) (as : List α) : List α :=
  distinctAfter same [] as

/-- Leaving out repetitions keeps the order and adds nothing. -/
theorem distinctAfter_sublist (same : α → α → Bool) :
    ∀ seen as : List α, (distinctAfter same seen as).Sublist as
  | _, [] => List.Sublist.refl []
  | seen, a :: as => by
    rw [distinctAfter]
    split
    · exact (distinctAfter_sublist same seen as).cons a
    · exact (distinctAfter_sublist same (a :: seen) as).cons_cons a

/-- What is kept is not the same as anything seen before. -/
theorem not_same_of_mem_distinctAfter {same : α → α → Bool} :
    ∀ {seen as : List α} {a b : α}, a ∈ distinctAfter same seen as → b ∈ seen → same a b = false
  | _, [], _, _, ha, _ => by simp [distinctAfter] at ha
  | seen, c :: as, a, b, ha, hb => by
    rw [distinctAfter] at ha
    split at ha
    · exact not_same_of_mem_distinctAfter ha hb
    · rename_i hc
      rcases List.mem_cons.mp ha with rfl | ha
      · simpa using fun h => hc (List.any_eq_true.mpr ⟨b, hb, h⟩)
      · exact not_same_of_mem_distinctAfter ha (List.mem_cons_of_mem c hb)

end GoStyle
