import Mathlib.Data.List.Sort
import Mathlib.Data.List.FinRange
import GoStyle.Proofs.Distinct
import GoStyle.Proofs.Places

/-!
# Digests

What is reported of problems in order of arrival. A digest of `raw` (`Digest`) lists, by their
indices, the problems that are the first of their subject and pass a test, in the order of their
places and, within a place, of arrival. These conditions leave no choice (`Digest.unique`).
Collecting and then filtering makes the digest (`digest_collect`), and for a test that twins pass
together it does not matter which of the two is done first (`collect_filter`).
-/

namespace GoStyle

/-! ## Stable sorting -/

section Stable

variable {α : Type} {le : α → α → Bool}

/-- Sorting keeps the order of items that tie: items that come in the order `earlier` leave in the
order of `le` and, where this does not decide, of `earlier`. -/
theorem pairwise_mergeSort_stable (trans : ∀ a b c, le a b → le b c → le a c)
    (total : ∀ a b, le a b || le b a) {earlier : α → α → Prop} :
    ∀ {as : List α}, as.Pairwise earlier →
      (as.mergeSort le).Pairwise fun a b => le a b ∧ (le b a → earlier a b)
  | [], _ => by simp
  | a :: as, h => by
    obtain ⟨ha, has⟩ := List.pairwise_cons.mp h
    -- `a` goes in front of everything that ties with it, and all of that comes after `a`.
    obtain ⟨l₁, l₂, hcons, hrest, hbefore⟩ := List.mergeSort_cons trans total a as
    have ih := pairwise_mergeSort_stable trans total has
    have hle := List.pairwise_mergeSort trans total (a :: as)
    have hmem : ∀ b ∈ l₂, b ∈ as := fun b hb =>
      List.mem_mergeSort.mp (hrest ▸ List.mem_append_right l₁ hb)
    rw [hcons] at hle ⊢
    rw [hrest] at ih
    obtain ⟨ih₁, ih₂, ih₁₂⟩ := List.pairwise_append.mp ih
    obtain ⟨-, hle₂, hle₁₂⟩ := List.pairwise_append.mp hle
    refine List.pairwise_append.mpr ⟨ih₁, List.pairwise_cons.mpr ⟨fun b hb => ?_, ih₂⟩, ?_⟩
    · exact ⟨(List.pairwise_cons.mp hle₂).1 b hb, fun _ => ha b (hmem b hb)⟩
    · intro b hb c hc
      rcases List.mem_cons.mp hc with rfl | hc
      · refine ⟨hle₁₂ b hb c List.mem_cons_self, fun hcb => ?_⟩
        simpa [hcb] using hbefore b hb
      · exact ih₁₂ b hb c hc

end Stable

/-! ## Digests -/

/-- The order in which a digest lists the indices of problems: by place, then by arrival. -/
def ListedBefore (raw : List Problem) (i j : Fin raw.length) : Prop :=
  (raw.get i).le (raw.get j) ∧ ((raw.get j).le (raw.get i) → i < j)

/-- `ps` lists the problems of `raw` that are the first of their subject and pass `keep`. -/
def Digest (keep : Problem → Bool) (raw ps : List Problem) : Prop :=
  ∃ order : List (Fin raw.length), ps = order.map raw.get ∧ order.Pairwise (ListedBefore raw) ∧
    ∀ i, i ∈ order ↔ keep (raw.get i) ∧ ∀ j < i, (raw.get j).twin (raw.get i) = false

theorem ListedBefore.irrefl (raw : List Problem) (i : Fin raw.length) : ¬ListedBefore raw i i :=
  fun h => lt_irrefl i (h.2 h.1)

theorem ListedBefore.asymm {raw : List Problem} {i j : Fin raw.length}
    (hij : ListedBefore raw i j) : ¬ListedBefore raw j i :=
  fun hji => lt_asymm (hij.2 hji.1) (hji.2 hij.1)

/-- Indices can be put in the order of a digest in one way only. -/
theorem eq_of_pairwise_listedBefore {raw : List Problem} {s t : List (Fin raw.length)}
    (hs : s.Pairwise (ListedBefore raw)) (ht : t.Pairwise (ListedBefore raw))
    (hmem : ∀ i, i ∈ s ↔ i ∈ t) : s = t := by
  have : Std.Irrefl (ListedBefore raw) := ⟨ListedBefore.irrefl raw⟩
  have : Std.Antisymm (ListedBefore raw) := ⟨fun i j hij hji => absurd hji hij.asymm⟩
  exact hs.eq_of_mem_iff ht hmem

/-- A list has at most one digest. -/
theorem Digest.unique {keep : Problem → Bool} {raw ps qs : List Problem}
    (hp : Digest keep raw ps) (hq : Digest keep raw qs) : ps = qs := by
  obtain ⟨s, rfl, hs, hmem⟩ := hp
  obtain ⟨t, rfl, ht, hmem'⟩ := hq
  rw [eq_of_pairwise_listedBefore hs ht fun i => (hmem i).trans (hmem' i).symm]

/-- The indices of problems in the order in which a digest lists them. -/
def listing (raw : List Problem) : List (Fin raw.length) :=
  (List.finRange raw.length).mergeSort fun i j => (raw.get i).le (raw.get j)

theorem mem_listing (raw : List Problem) (i : Fin raw.length) : i ∈ listing raw :=
  List.mem_mergeSort.mpr (List.mem_finRange i)

theorem pairwise_listing (raw : List Problem) : (listing raw).Pairwise (ListedBefore raw) :=
  pairwise_mergeSort_stable
    (fun i j k => Problem.le_trans (raw.get i) (raw.get j) (raw.get k))
    (fun i j => Problem.le_total (raw.get i) (raw.get j)) (List.pairwise_lt_finRange raw.length)

theorem sortProblems_eq (raw : List Problem) : sortProblems raw = (listing raw).map raw.get := by
  rw [listing, List.map_mergeSort (s := Problem.le) fun _ _ _ _ => rfl, sortProblems,
    List.map_get_finRange]

/-- The problems that are left after collecting, by their indices. -/
theorem collect_eq (raw : List Problem) : collect raw =
    (distinctBy (fun i j => (raw.get i).twin (raw.get j)) (listing raw)).map raw.get := by
  rw [collect, dropTwins, sortProblems_eq, distinctBy_map]

/-- Twins tie in the order of places, so the first of them to arrive is the first to be listed. -/
theorem mem_distinctBy_listing (raw : List Problem) (i : Fin raw.length) :
    i ∈ distinctBy (fun i j => (raw.get i).twin (raw.get j)) (listing raw) ↔
      ∀ j < i, (raw.get j).twin (raw.get i) = false := by
  rw [mem_distinctBy (fun i j k => Problem.twin_trans (raw.get i) (raw.get j) (raw.get k))
    (fun i j => ListedBefore.asymm) (pairwise_listing raw)]
  constructor
  · rintro ⟨-, h⟩ j hj
    by_contra htwin
    have hji : (raw.get j).twin (raw.get i) := by simpa using htwin
    have hij : (raw.get i).twin (raw.get j) := by rwa [Problem.twin_comm]
    have := h j (mem_listing raw j) ⟨Problem.le_of_twin hji, fun _ => hj⟩
    rw [hij] at this
    simp at this
  · refine fun h => ⟨mem_listing raw i, fun j _ hji => ?_⟩
    by_contra htwin
    have hij : (raw.get i).twin (raw.get j) := by simpa using htwin
    have := h j (hji.2 (Problem.le_of_twin hij))
    rw [Problem.twin_comm, hij] at this
    simp at this

/-- Collecting problems and filtering what is left makes the digest. -/
theorem digest_collect (keep : Problem → Bool) (raw : List Problem) :
    Digest keep raw ((collect raw).filter keep) := by
  refine ⟨(distinctBy (fun i j => (raw.get i).twin (raw.get j)) (listing raw)).filter
    fun i => keep (raw.get i), ?_, ?_, fun i => ?_⟩
  · rw [collect_eq, List.filter_map]
    rfl
  · exact (pairwise_listing raw).sublist
      (List.filter_sublist.trans (distinctBy_sublist _ _))
  · rw [List.mem_filter, mem_distinctBy_listing, and_comm]

/-- Every problem has a twin among those that are left after collecting. -/
theorem exists_twin_mem_collect {raw : List Problem} {p : Problem} (hp : p ∈ raw) :
    ∃ q ∈ collect raw, p.twin q :=
  exists_mem_distinctBy Problem.twin_refl (List.mem_mergeSort.mpr hp)

/-- Nothing but what was found is left after collecting. -/
theorem mem_of_mem_collect {raw : List Problem} {p : Problem} (hp : p ∈ collect raw) : p ∈ raw :=
  List.mem_mergeSort.mp ((distinctBy_sublist _ _).subset hp)

/-! ## Filtering first -/

/-- Problems can be filtered before they are sorted. -/
theorem sortProblems_filter (keep : Problem → Bool) (raw : List Problem) :
    (sortProblems raw).filter keep = sortProblems (raw.filter keep) := by
  let le := fun i j : Fin raw.length => (raw.get i).le (raw.get j)
  let kept := (List.finRange raw.length).filter fun i => keep (raw.get i)
  have hsorted : sortProblems (raw.filter keep) = (kept.mergeSort le).map raw.get := by
    rw [List.map_mergeSort (s := Problem.le) fun _ _ _ _ => rfl, sortProblems]
    conv_lhs => rw [← List.map_get_finRange raw, List.filter_map]
    rfl
  have hkept : (kept.mergeSort le).Pairwise (ListedBefore raw) :=
    pairwise_mergeSort_stable (fun i j k => Problem.le_trans (raw.get i) (raw.get j) (raw.get k))
      (fun i j => Problem.le_total (raw.get i) (raw.get j))
      ((List.pairwise_lt_finRange raw.length).sublist List.filter_sublist)
  have hlisting : ((listing raw).filter fun i => keep (raw.get i)).Pairwise (ListedBefore raw) :=
    (pairwise_listing raw).sublist List.filter_sublist
  rw [hsorted, sortProblems_eq, List.filter_map]
  congr 1
  -- Both lists are in the one order that leaves no choice.
  refine eq_of_pairwise_listedBefore hlisting hkept fun i => ?_
  rw [List.mem_filter, List.mem_mergeSort, List.mem_filter]
  simp [mem_listing]

/-- Twins being kept or dropped together, problems can be filtered before they are collected. -/
theorem collect_filter {keep : Problem → Bool} {raw : List Problem}
    (hkeep : ∀ p ∈ raw, ∀ q ∈ raw, p.twin q → keep p = keep q) :
    (collect raw).filter keep = collect (raw.filter keep) := by
  have hsorted : ∀ p ∈ sortProblems raw, ∀ q ∈ sortProblems raw, p.twin q → keep p = keep q :=
    fun p hp q hq => hkeep p (List.mem_mergeSort.mp hp) q (List.mem_mergeSort.mp hq)
  rw [collect, collect, dropTwins, dropTwins, distinctBy_filter hsorted, sortProblems_filter]

end GoStyle
