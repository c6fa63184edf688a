import GoStyle.Proofs.Digest

/-!
# Collecting in parts

Problems may be collected in parts: what is left of several lists, put together and collected again,
is what is left of all of them at once (`collect_append`). Twins stand at the same place, so places
can be looked at one by one. A list is in order of places and, at each place, of arrival
(`IsListing`) in one way only (`IsListing.unique`), and at each place leaving out repetitions does
not ask for the order of the others.
-/

namespace GoStyle

/-! ## Listings -/

/-- The problems that stand at a place. -/
def problemsAt (place : List (List ℕ) ×ₗ ℕ ×ₗ ℕ) (ps : List Problem) : List Problem :=
  ps.filter fun p => p.place = place

/-- Whether problems are listed by place and, at each place, as they come. -/
structure IsListing (ps listed : List Problem) : Prop where
  ordered : listed.Pairwise fun p q => p.place ≤ q.place
  kept : ∀ place, problemsAt place listed = problemsAt place ps

section Listings

variable {ps qs l m : List Problem} {p : Problem} {place : List (List ℕ) ×ₗ ℕ ×ₗ ℕ}

theorem problemsAt_append (place : List (List ℕ) ×ₗ ℕ ×ₗ ℕ) (ps qs : List Problem) :
    problemsAt place (ps ++ qs) = problemsAt place ps ++ problemsAt place qs :=
  List.filter_append ps qs

theorem problemsAt_cons (place : List (List ℕ) ×ₗ ℕ ×ₗ ℕ) (p : Problem) (ps : List Problem) :
    problemsAt place (p :: ps) =
      if p.place = place then p :: problemsAt place ps else problemsAt place ps := by
  simp only [problemsAt, List.filter_cons, decide_eq_true_eq]

theorem mem_problemsAt : p ∈ problemsAt place ps ↔ p ∈ ps ∧ p.place = place := by
  rw [problemsAt, List.mem_filter, decide_eq_true_iff]

/-- The first of the problems in order stands at the least place. -/
theorem place_le_of_mem (h : (p :: ps).Pairwise fun p q => p.place ≤ q.place) {q : Problem}
    (hq : q ∈ p :: ps) : p.place ≤ q.place := by
  rcases List.mem_cons.mp hq with rfl | hq
  · exact le_refl _
  · exact (List.pairwise_cons.mp h).1 q hq

/-- Problems in order of places are told by those at each place. -/
theorem eq_of_problemsAt_eq : ∀ {l m : List Problem},
    l.Pairwise (fun p q => p.place ≤ q.place) → m.Pairwise (fun p q => p.place ≤ q.place) →
      (∀ place, problemsAt place l = problemsAt place m) → l = m
  | [], [], _, _, _ => rfl
  | [], q :: m, _, _, h => by
    have hmem : q ∈ problemsAt q.place [] :=
      h q.place ▸ mem_problemsAt.mpr ⟨List.mem_cons_self, rfl⟩
    cases hmem
  | p :: l, [], _, _, h => by
    have hmem : p ∈ problemsAt p.place [] :=
      h p.place ▸ mem_problemsAt.mpr ⟨List.mem_cons_self, rfl⟩
    cases hmem
  | p :: l, q :: m, hl, hm, h => by
    have hp : p ∈ q :: m :=
      (mem_problemsAt.mp (h p.place ▸ mem_problemsAt.mpr ⟨List.mem_cons_self, rfl⟩)).1
    have hq : q ∈ p :: l :=
      (mem_problemsAt.mp (h q.place ▸ mem_problemsAt.mpr ⟨List.mem_cons_self, rfl⟩)).1
    have hplace : p.place = q.place := le_antisymm (place_le_of_mem hl hq) (place_le_of_mem hm hp)
    obtain ⟨rfl, -⟩ : p = q ∧ problemsAt p.place l = problemsAt p.place m := by
      have hhere := h p.place
      rw [problemsAt_cons, problemsAt_cons, if_pos rfl, if_pos hplace.symm] at hhere
      exact List.cons_eq_cons.mp hhere
    refine congrArg (p :: ·) (eq_of_problemsAt_eq hl.of_cons hm.of_cons fun place => ?_)
    have hthere := h place
    rw [problemsAt_cons, problemsAt_cons] at hthere
    split at hthere
    · exact (List.cons_eq_cons.mp hthere).2
    · exact hthere

/-- Problems can be listed in one way only. -/
theorem IsListing.unique (hl : IsListing ps l) (hm : IsListing ps m) : l = m :=
  eq_of_problemsAt_eq hl.ordered hm.ordered fun place => (hl.kept place).trans (hm.kept place).symm

/-- Sorting problems lists them. -/
theorem isListing_sortProblems (ps : List Problem) : IsListing ps (sortProblems ps) where
  ordered := (List.pairwise_mergeSort Problem.le_trans Problem.le_total ps).imp
    fun {p q} h => (p.le_iff q).mp h
  kept place := by
    have htie : ((ps.filter fun p => p.place = place).Pairwise fun p q => p.le q) :=
      List.pairwise_of_forall_mem_list fun p hp q hq => by
        rw [Problem.le_iff, (mem_problemsAt.mp hp).2, (mem_problemsAt.mp hq).2]
    rw [problemsAt, sortProblems_filter, sortProblems, List.mergeSort_of_pairwise htie, problemsAt]

end Listings

/-! ## Repetitions -/

theorem problemsAt_dropTwins (place : List (List ℕ) ×ₗ ℕ ×ₗ ℕ) (ps : List Problem) :
    problemsAt place (dropTwins ps) = dropTwins (problemsAt place ps) :=
  distinctBy_filter fun p _ q _ h => by rw [Problem.place_eq_of_twin h]

/-- What is left of problems is those that no earlier one has said. -/
theorem dropTwins_eq (ps : List Problem) : dropTwins ps =
    ((List.finRange ps.length).filter fun i =>
      ∀ j < i, (ps.get j).twin (ps.get i) = false).map ps.get := by
  let same := fun i j : Fin ps.length => (ps.get i).twin (ps.get j)
  have hfirst : dropTwins ps = (distinctBy same (List.finRange ps.length)).map ps.get := by
    rw [← distinctBy_map, List.map_get_finRange, dropTwins]
  have hlt := List.pairwise_lt_finRange ps.length
  rw [hfirst]
  congr 1
  refine (hlt.sublist (distinctBy_sublist _ _)).eq_of_mem_iff (hlt.filter _) fun i => ?_
  rw [mem_distinctBy (fun i j k => Problem.twin_trans (ps.get i) (ps.get j) (ps.get k))
    (fun i j => lt_asymm) hlt, List.mem_filter, decide_eq_true_iff]
  simp only [List.mem_finRange, true_and, forall_const, Problem.twin_comm (ps.get i)]

/-- What is left of problems at a place is told by the problems at that place. -/
theorem problemsAt_collect (place : List (List ℕ) ×ₗ ℕ ×ₗ ℕ) (ps : List Problem) :
    problemsAt place (collect ps) = dropTwins (problemsAt place ps) := by
  rw [collect, problemsAt_dropTwins, (isListing_sortProblems ps).kept]

theorem pairwise_collect (ps : List Problem) :
    (collect ps).Pairwise fun p q => p.place ≤ q.place :=
  (isListing_sortProblems ps).ordered.sublist (distinctBy_sublist _ _)

/-- What is left of problems is what no earlier one has said, listed. -/
theorem isListing_collect (ps : List Problem) : IsListing (dropTwins ps) (collect ps) where
  ordered := pairwise_collect ps
  kept place := by rw [problemsAt_collect, problemsAt_dropTwins]

/-- Problems that are left of two lists and collected again are left of both lists together. -/
theorem collect_collect_append (ps qs : List Problem) :
    collect (collect ps ++ collect qs) = collect (ps ++ qs) := by
  refine eq_of_problemsAt_eq (pairwise_collect _) (pairwise_collect _) fun place => ?_
  simp only [problemsAt_collect, problemsAt_append]
  exact distinctBy_append Problem.twin_refl Problem.twin_trans _ _

/-- Collecting problems in parts is collecting them at once. What is left of a list are its problems
that no earlier one has said, listed by place and, at each place, as they come, which is to sort
them; it does not matter whether repetitions are left out before or after sorting, nor whether what
is left is collected again. -/
theorem collect_append (ps qs : List Problem) :
    collect (ps ++ qs) = collect (collect ps ++ collect qs) ∧
    IsListing (dropTwins ps) (collect ps) ∧
    dropTwins ps = ((List.finRange ps.length).filter fun i =>
      ∀ j < i, (ps.get j).twin (ps.get i) = false).map ps.get ∧
    collect ps = sortProblems (dropTwins ps) ∧
    dropTwins (sortProblems ps) = sortProblems (dropTwins ps) ∧
    collect (collect ps) = collect ps := by
  have hsort : collect ps = sortProblems (dropTwins ps) :=
    (isListing_collect ps).unique (isListing_sortProblems (dropTwins ps))
  have hagain : collect (collect ps) = collect ps := by
    have hnil : collect [] = [] := List.eq_nil_iff_forall_not_mem.mpr fun p hp =>
      List.not_mem_nil (mem_of_mem_collect hp)
    have hparts := collect_collect_append ps []
    rwa [hnil, List.append_nil, List.append_nil] at hparts
  exact ⟨(collect_collect_append ps qs).symm, isListing_collect ps, dropTwins_eq ps, hsort, hsort,
    hagain⟩

end GoStyle
