import Mathlib.Data.List.Basic
import GoStyle.Distinct

/-!
# The first of each kind

What `distinctBy` keeps, read off the positions of a list. Nothing that is kept repeats something
else that is kept (`pairwise_distinctBy`). In a list whose items are put in order by `earlier`, an
item is kept exactly when no earlier one is the same (`mem_distinctBy`), and everything that is left
out is the same as something kept (`exists_mem_distinctBy`). Renaming the items (`distinctBy_map`)
and choosing among them by a property that items that are the same share (`distinctBy_filter`) can
be done before or afterwards. Lists may be cleared of repetitions before they are put together
(`distinctBy_append`).
-/

namespace GoStyle

variable {α β : Type} {same : α → α → Bool}

/-- Leaving out repetitions keeps the order and adds nothing. -/
theorem distinctBy_sublist (same : α → α → Bool) (as : List α) : (distinctBy same as).Sublist as :=
  distinctAfter_sublist same [] as

theorem pairwise_distinctAfter : ∀ seen as : List α,
    (distinctAfter same seen as).Pairwise fun a b => same b a = false
  | _, [] => List.Pairwise.nil
  | seen, a :: as => by
    rw [distinctAfter]
    split
    · exact pairwise_distinctAfter seen as
    · refine List.Pairwise.cons (fun b hb => ?_) (pairwise_distinctAfter (a :: seen) as)
      exact not_same_of_mem_distinctAfter hb List.mem_cons_self

/-- No item that is kept repeats an earlier one. -/
theorem pairwise_distinctBy (same : α → α → Bool) (as : List α) :
    (distinctBy same as).Pairwise fun a b => same b a = false :=
  pairwise_distinctAfter [] as

/-- An item is kept exactly when it is the same as nothing seen before and nothing earlier. -/
theorem mem_distinctAfter {earlier : α → α → Prop}
    (trans : ∀ a b c, same a b → same b c → same a c)
    (asymm : ∀ a b, earlier a b → ¬earlier b a) :
    ∀ {seen as : List α} {a : α}, as.Pairwise earlier →
      (a ∈ distinctAfter same seen as ↔ a ∈ as ∧ (∀ b ∈ seen, same a b = false) ∧
        ∀ b ∈ as, earlier b a → same a b = false)
  | _, [], _, _ => by simp [distinctAfter]
  | seen, c :: as, a, h => by
    obtain ⟨hc, has⟩ := List.pairwise_cons.mp h
    have irrefl : ∀ b, ¬earlier b b := fun b hb => asymm b b hb hb
    rw [distinctAfter]
    split
    · rename_i hseen
      -- What is the same as `c` is the same as what made `c` a repetition.
      obtain ⟨s, hs, hcs⟩ := List.any_eq_true.mp hseen
      rw [mem_distinctAfter trans asymm has]
      constructor
      · rintro ⟨ha, hsa, hearlier⟩
        refine ⟨List.mem_cons_of_mem c ha, hsa, fun b hb hba => ?_⟩
        rcases List.mem_cons.mp hb with rfl | hb
        · by_contra hab
          have := trans a b s (by simpa using hab) hcs
          simp [hsa s hs] at this
        · exact hearlier b hb hba
      · rintro ⟨ha, hsa, hearlier⟩
        rcases List.mem_cons.mp ha with rfl | ha
        · simp [hsa s hs] at hcs
        · exact ⟨ha, hsa, fun b hb hba => hearlier b (List.mem_cons_of_mem c hb) hba⟩
    · rename_i hseen
      have hcseen : ∀ b ∈ seen, same c b = false := fun b hb => by
        by_contra hcb
        exact hseen (List.any_eq_true.mpr ⟨b, hb, by simpa using hcb⟩)
      rw [List.mem_cons, mem_distinctAfter trans asymm has]
      constructor
      · rintro (rfl | ⟨ha, hsa, hearlier⟩)
        · refine ⟨List.mem_cons_self, hcseen, fun b hb hba => ?_⟩
          rcases List.mem_cons.mp hb with rfl | hb
          · exact absurd hba (irrefl b)
          · exact absurd hba (asymm a b (hc b hb))
        · refine ⟨List.mem_cons_of_mem c ha, fun b hb => hsa b (List.mem_cons_of_mem c hb),
            fun b hb hba => ?_⟩
          rcases List.mem_cons.mp hb with rfl | hb
          · exact hsa b List.mem_cons_self
          · exact hearlier b hb hba
      · rintro ⟨ha, hsa, hearlier⟩
        rcases List.mem_cons.mp ha with rfl | ha'
        · exact Or.inl rfl
        · refine Or.inr ⟨ha', fun b hb => ?_, fun b hb => hearlier b (List.mem_cons_of_mem c hb)⟩
          rcases List.mem_cons.mp hb with rfl | hb
          · exact hearlier b List.mem_cons_self (hc a ha')
          · exact hsa b hb

/-- In a list in order, the items kept are those that are the same as no earlier one. -/
theorem mem_distinctBy {earlier : α → α → Prop} (trans : ∀ a b c, same a b → same b c → same a c)
    (asymm : ∀ a b, earlier a b → ¬earlier b a) {as : List α} (h : as.Pairwise earlier) {a : α} :
    a ∈ distinctBy same as ↔ a ∈ as ∧ ∀ b ∈ as, earlier b a → same a b = false := by
  rw [distinctBy, mem_distinctAfter trans asymm h]
  simp

/-- Every item is the same as one seen before or one that is kept. -/
theorem exists_mem_distinctAfter (refl : ∀ a, same a a) :
    ∀ (seen : List α) {as : List α} {a : α}, a ∈ as →
      ∃ b, (b ∈ seen ∨ b ∈ distinctAfter same seen as) ∧ same a b
  | seen, c :: as, a, ha => by
    rw [distinctAfter]
    split
    · rename_i hseen
      rcases List.mem_cons.mp ha with rfl | ha
      · obtain ⟨s, hs, has⟩ := List.any_eq_true.mp hseen
        exact ⟨s, Or.inl hs, has⟩
      · exact exists_mem_distinctAfter refl seen ha
    · rcases List.mem_cons.mp ha with rfl | ha
      · exact ⟨a, Or.inr List.mem_cons_self, refl a⟩
      · obtain ⟨b, hb, hab⟩ := exists_mem_distinctAfter refl (c :: seen) ha
        refine ⟨b, ?_, hab⟩
        rcases hb with hb | hb
        · rcases List.mem_cons.mp hb with rfl | hb
          · exact Or.inr List.mem_cons_self
          · exact Or.inl hb
        · exact Or.inr (List.mem_cons_of_mem c hb)

/-- Every item is the same as one that is kept. -/
theorem exists_mem_distinctBy (refl : ∀ a, same a a) {as : List α} {a : α} (ha : a ∈ as) :
    ∃ b ∈ distinctBy same as, same a b := by
  obtain ⟨b, hb, hab⟩ := exists_mem_distinctAfter refl [] ha
  exact ⟨b, hb.resolve_left List.not_mem_nil, hab⟩

theorem distinctAfter_map (f : β → α) : ∀ seen as : List β,
    distinctAfter same (seen.map f) (as.map f) =
      (distinctAfter (fun a b => same (f a) (f b)) seen as).map f
  | _, [] => rfl
  | seen, a :: as => by
    have hany : (seen.map f).any (same (f a)) = seen.any fun b => same (f a) (f b) := by
      simp [List.any_map, Function.comp_def]
    rw [List.map_cons, distinctAfter, distinctAfter, hany]
    split
    · exact distinctAfter_map f seen as
    · rw [List.map_cons, ← distinctAfter_map f (a :: seen) as, List.map_cons]

/-- Repetitions among the images of items are repetitions among the items. -/
theorem distinctBy_map (f : β → α) (as : List β) :
    distinctBy same (as.map f) = (distinctBy (fun a b => same (f a) (f b)) as).map f :=
  distinctAfter_map f [] as

theorem distinctAfter_filter {keep : α → Bool} {all : List α}
    (hkeep : ∀ a ∈ all, ∀ b ∈ all, same a b → keep a = keep b) :
    ∀ {seen as : List α}, seen ⊆ all → as ⊆ all → (distinctAfter same seen as).filter keep =
      distinctAfter same (seen.filter keep) (as.filter keep)
  | _, [], _, _ => rfl
  | seen, a :: as, hseen, has => by
    obtain ⟨hmem, htail⟩ := List.cons_subset.mp has
    have hrest := distinctAfter_filter hkeep hseen htail
    have hmore := distinctAfter_filter hkeep (List.cons_subset.mpr ⟨hmem, hseen⟩) htail
    cases ha : keep a with
    | false =>
      rw [List.filter_cons_of_neg (by simp [ha])] at hmore ⊢
      rw [distinctAfter]
      split
      · exact hrest
      · rw [List.filter_cons_of_neg (by simp [ha]), hmore]
    | true =>
      have hany : (seen.filter keep).any (same a) = seen.any (same a) := by
        rw [List.any_filter, Bool.eq_iff_iff, List.any_eq_true, List.any_eq_true]
        constructor
        · rintro ⟨b, hb, h⟩
          exact ⟨b, hb, (Bool.and_eq_true_iff.mp h).2⟩
        · rintro ⟨b, hb, h⟩
          exact ⟨b, hb, by rw [← hkeep a hmem b (hseen hb) h, ha, h]; rfl⟩
      rw [List.filter_cons_of_pos ha] at hmore ⊢
      rw [distinctAfter, distinctAfter, hany]
      split
      · exact hrest
      · rw [List.filter_cons_of_pos ha, hmore]

/-- Items that are the same being kept or dropped together, it does not matter whether repetitions
are left out first. -/
theorem distinctBy_filter {keep : α → Bool} {as : List α}
    (hkeep : ∀ a ∈ as, ∀ b ∈ as, same a b → keep a = keep b) :
    (distinctBy same as).filter keep = distinctBy same (as.filter keep) :=
  distinctAfter_filter hkeep (List.nil_subset as) (List.Subset.refl as)

/-! ## Lists put together -/

/-- What was seen before matters only through the items that are the same as some of it. -/
theorem distinctAfter_congr : ∀ {seen seen' as : List α},
    (∀ b, seen.any (same b) = seen'.any (same b)) →
      distinctAfter same seen as = distinctAfter same seen' as
  | _, _, [], _ => rfl
  | seen, seen', a :: as, h => by
    have hcons : ∀ b, (a :: seen).any (same b) = (a :: seen').any (same b) := fun b => by
      rw [List.any_cons, List.any_cons, h b]
    rw [distinctAfter, distinctAfter, h a, distinctAfter_congr h, distinctAfter_congr hcons]

/-- An item seen again makes no difference. -/
theorem any_cons_of_any (trans : ∀ a b c, same a b → same b c → same a c) {a : α} {seen : List α}
    (h : seen.any (same a)) (b : α) : (a :: seen).any (same b) = seen.any (same b) := by
  obtain ⟨c, hc, hac⟩ := List.any_eq_true.mp h
  have himp : same b a → seen.any (same b) := fun hba =>
    List.any_eq_true.mpr ⟨c, hc, trans b a c hba hac⟩
  rw [List.any_cons, Bool.or_eq_right_iff_imp]
  exact himp

/-- Behind a list its items have been seen. -/
theorem distinctAfter_append (trans : ∀ a b c, same a b → same b c → same a c) (bs : List α) :
    ∀ seen as : List α, distinctAfter same seen (as ++ bs) =
      distinctAfter same seen as ++ distinctAfter same (as ++ seen) bs
  | _, [] => rfl
  | seen, a :: as => by
    rw [List.cons_append, List.cons_append, distinctAfter, distinctAfter]
    split
    · rename_i hseen
      have hany : (as ++ seen).any (same a) := by
        rw [List.any_append, hseen, Bool.or_true]
      rw [distinctAfter_append trans bs seen as,
        distinctAfter_congr fun b => (any_cons_of_any trans hany b).symm]
    · have hmove : ∀ b, (as ++ a :: seen).any (same b) = (a :: (as ++ seen)).any (same b) :=
        fun b => by simp only [List.any_append, List.any_cons, Bool.or_left_comm]
      rw [distinctAfter_append trans bs (a :: seen) as, distinctAfter_congr hmove, List.cons_append]

/-- Repetitions may be left out twice, if what was seen the first time is seen again. -/
theorem distinctAfter_distinctAfter (trans : ∀ a b c, same a b → same b c → same a c) :
    ∀ {seen seen' as : List α}, (∀ b, seen.any (same b) → seen'.any (same b)) →
      distinctAfter same seen' (distinctAfter same seen as) = distinctAfter same seen' as
  | _, _, [], _ => rfl
  | seen, seen', a :: as, h => by
    rw [distinctAfter]
    split
    · rename_i hseen
      rw [distinctAfter_distinctAfter trans h, distinctAfter, if_pos (h a hseen)]
    · rw [distinctAfter, distinctAfter]
      split
      · rename_i hseen'
        refine distinctAfter_distinctAfter trans fun b hb => ?_
        rw [← any_cons_of_any trans hseen' b]
        rw [List.any_cons, Bool.or_eq_true] at hb ⊢
        exact hb.imp_right (h b)
      · rw [distinctAfter_distinctAfter trans fun b hb => ?_]
        rw [List.any_cons, Bool.or_eq_true] at hb ⊢
        exact hb.imp_right (h b)

/-- Something is the same as an item that is kept if it is the same as any. -/
theorem any_distinctBy (refl : ∀ a, same a a) (trans : ∀ a b c, same a b → same b c → same a c)
    (as : List α) (b : α) : (distinctBy same as).any (same b) = as.any (same b) := by
  rw [Bool.eq_iff_iff, List.any_eq_true, List.any_eq_true]
  constructor
  · rintro ⟨a, ha, hba⟩
    exact ⟨a, (distinctBy_sublist same as).subset ha, hba⟩
  · rintro ⟨a, ha, hba⟩
    obtain ⟨c, hc, hac⟩ := exists_mem_distinctBy refl ha
    exact ⟨c, hc, trans b a c hba hac⟩

/-- Lists may be cleared of repetitions before they are put together. -/
theorem distinctBy_append (refl : ∀ a, same a a) (trans : ∀ a b c, same a b → same b c → same a c)
    (as bs : List α) :
    distinctBy same (distinctBy same as ++ distinctBy same bs) = distinctBy same (as ++ bs) := by
  have hnone : ∀ {seen : List α} (b : α), ([] : List α).any (same b) → seen.any (same b) :=
    fun b h => by cases h
  calc distinctBy same (distinctBy same as ++ distinctBy same bs)
      = distinctAfter same [] (distinctBy same as) ++
          distinctAfter same (distinctBy same as ++ []) (distinctBy same bs) :=
        distinctAfter_append trans _ [] _
    _ = distinctBy same as ++ distinctAfter same (distinctBy same as ++ []) bs := by
        rw [distinctBy, distinctBy, distinctAfter_distinctAfter trans hnone,
          distinctAfter_distinctAfter trans hnone]
    _ = distinctBy same as ++ distinctAfter same (as ++ []) bs := by
        rw [List.append_nil, List.append_nil, distinctAfter_congr (any_distinctBy refl trans as)]
    _ = distinctBy same (as ++ bs) := (distinctAfter_append trans bs [] as).symm

end GoStyle
