import Mathlib.Data.List.Nodup
import GoStyle.Lint.Rules.ValueDoc

/-!
# Notes on values

The rule on comments of values is the one rule that keeps notes. It reads and writes them line by
line, but all that matters is whether the declaration at hand has been noted before: `valueDoc_eq`
says so of a line, `valueSpecDocs_eq` of a declaration and `valueDocs_eq` of the declarations of a
file, with what is said as a function of that one fact (`FileContext.specFaults`,
`FileContext.groupFaults`). Having been noted only takes away (`specFaults_subset`), and a file's
declarations are noted by that file only (`hasMissingComment_valueDocs`).
-/

namespace GoStyle

/-! ## Notes -/

/-- A mark is seen on the declaration it is for. -/
theorem hasMissingComment_mark (s : PassState) (g g' : GroupId) :
    (s.markMissingComment g).hasMissingComment g' = (s.hasMissingComment g' || g' == g) := by
  unfold PassState.markMissingComment
  split
  · rename_i hg
    by_cases heq : g' = g
    · subst heq
      rw [hg, Bool.true_or]
    · rw [beq_eq_false_iff_ne.mpr heq, Bool.or_false]
  · rw [Bool.eq_iff_iff]
    simp [PassState.hasMissingComment, or_comm]

theorem hasMissingComment_empty (g : GroupId) : PassState.empty.hasMissingComment g = false :=
  rfl

theorem markMissingComment_of_has {s : PassState} {g : GroupId} (h : s.hasMissingComment g) :
    s.markMissingComment g = s := by
  rw [PassState.markMissingComment, if_pos h]

/-! ## A declaration -/

/-- Whether a line of a declaration is exported and has no comment. -/
def ValueDecl.lacksDoc (d : ValueDecl) (s : ValueSpec) : Bool :=
  s.exportedLater?.isNone && s.names.head?.any Ident.isExported && s.doc.isNone && d.doc.isNone

/-- What is wrong with a line of a declaration that has not been noted. -/
def FileContext.valueFault (c : FileContext) (d : ValueDecl) (s : ValueSpec) : Option Problem :=
  (c.valueDoc ⟨0, 0⟩ d s PassState.empty).1

/-- What is wrong with some lines of a declaration; `noted` says whether a missing comment has been
reported about it before. -/
def FileContext.specFaults (c : FileContext) (d : ValueDecl) : Bool → List ValueSpec → List Problem
  | _, [] => []
  | noted, s :: ss =>
    (if noted && d.lacksDoc s then [] else (c.valueFault d s).toList) ++
      c.specFaults d (noted || d.lacksDoc s) ss

section Declaration

variable (c : FileContext) (g : GroupId) (d : ValueDecl)

/-- A line without the comment it needs is reported unless its declaration has been noted, and has
it noted. Other lines have nothing to do with notes. -/
theorem valueDoc_eq (s : ValueSpec) (state : PassState) : c.valueDoc g d s state =
    if d.lacksDoc s then
      if state.hasMissingComment g then (none, state)
      else (c.valueFault d s, state.markMissingComment g)
    else (c.valueFault d s, state) := by
  unfold FileContext.valueFault FileContext.valueDoc ValueDecl.lacksDoc
  cases s.exportedLater? with
  | some extra => rfl
  | none =>
    cases s.names.head? with
    | none => rfl
    | some first =>
      cases hexported : first.isExported with
      | false => simp [hexported]
      | true =>
        unfold FileContext.commentedValue
        cases hdecl : d.doc with
        | some declDoc =>
          simp [hexported]
          split <;> rfl
        | none =>
          cases hspec : s.doc with
          | some doc => simp [hexported]
          | none => simp [hexported, hasMissingComment_empty]

/-- The lines of a declaration, by whether it has been noted. -/
theorem valueSpecDocs_eq : ∀ (specs : List ValueSpec) (state : PassState),
    c.valueSpecDocs g d specs state = (c.specFaults d (state.hasMissingComment g) specs,
      if specs.any d.lacksDoc then state.markMissingComment g else state)
  | [], _ => rfl
  | s :: ss, state => by
    rw [FileContext.valueSpecDocs, valueDoc_eq, FileContext.specFaults, List.any_cons]
    cases hlacks : d.lacksDoc s with
    | false => simp [valueSpecDocs_eq ss state]
    | true =>
      cases hnoted : state.hasMissingComment g with
      | true => simp [valueSpecDocs_eq ss state, hnoted, markMissingComment_of_has hnoted]
      | false =>
        have hmark : (state.markMissingComment g).hasMissingComment g := by
          rw [hasMissingComment_mark]
          simp
        simp [valueSpecDocs_eq ss, hmark, markMissingComment_of_has hmark]

/-- Having been noted only takes away. -/
theorem specFaults_subset : ∀ (noted : Bool) (specs : List ValueSpec),
    c.specFaults d noted specs ⊆ c.specFaults d false specs
  | _, [] => List.nil_subset _
  | false, _ :: _ => List.Subset.refl _
  | true, s :: ss => by
    intro p hp
    rw [FileContext.specFaults] at hp ⊢
    rcases List.mem_append.mp hp with hp | hp
    · split at hp
      · cases hp
      · exact List.mem_append_left _ (by simpa using hp)
    · refine List.mem_append_right _ ?_
      cases hlacks : d.lacksDoc s with
      | true => simpa [hlacks] using hp
      | false => simpa [hlacks] using specFaults_subset true ss (by simpa using hp)

end Declaration

/-! ## A file -/

/-- What is wrong with a declaration if it is one of values, `noted` being what has been noted. -/
def FileContext.groupFaults (c : FileContext) (noted : GroupId → Bool) :
    GroupId × Decl → List Problem
  | (g, .value d) => c.specFaults d (noted g) d.specs
  | _ => []

/-- Whether a declaration is one of values of which a line needs a comment and has none. -/
def Decl.lacksDoc : Decl → Bool
  | .value d => d.specs.any d.lacksDoc
  | _ => false

/-- Declarations are noted if they lack a comment, and no others are. -/
theorem hasMissingComment_valueDocs (c : FileContext) (g : GroupId) :
    ∀ (ds : List (GroupId × Decl)) (state : PassState),
      (c.valueDocs ds state).2.hasMissingComment g =
        (state.hasMissingComment g || ds.any fun (g', d) => g == g' && d.lacksDoc)
  | [], _ => by simp [FileContext.valueDocs]
  | (g', .value d) :: ds, state => by
    rw [FileContext.valueDocs, valueSpecDocs_eq]
    simp only [hasMissingComment_valueDocs c g ds, List.any_cons, Decl.lacksDoc]
    split
    · rename_i hlacks
      rw [hasMissingComment_mark, hlacks, Bool.and_true, Bool.or_assoc]
    · rename_i hlacks
      rw [Bool.not_eq_true] at hlacks
      rw [hlacks, Bool.and_false, Bool.false_or]
  | (_, .type _) :: ds, state => by
    rw [FileContext.valueDocs, hasMissingComment_valueDocs c g ds]
    · simp [Decl.lacksDoc]
    · simp
  | (_, .func _) :: ds, state => by
    rw [FileContext.valueDocs, hasMissingComment_valueDocs c g ds]
    · simp [Decl.lacksDoc]
    · simp

/-- What is wrong with declarations of which no two are the same, by what has been noted before. -/
theorem valueDocs_eq (c : FileContext) : ∀ (ds : List (GroupId × Decl)) (state : PassState),
    (ds.map Prod.fst).Nodup →
      (c.valueDocs ds state).1 = ds.flatMap (c.groupFaults state.hasMissingComment)
  | [], _, _ => rfl
  | (g, .value d) :: ds, state, hnodup => by
    obtain ⟨hg, hds⟩ := List.nodup_cons.mp hnodup
    -- What is noted about this declaration is not asked about the others.
    have hrest : ∀ state' : PassState, (∀ g', g' ≠ g →
        state'.hasMissingComment g' = state.hasMissingComment g') →
        ds.flatMap (c.groupFaults state'.hasMissingComment) =
          ds.flatMap (c.groupFaults state.hasMissingComment) := by
      intro state' hsame
      refine List.flatMap_congr fun gd hgd => ?_
      obtain ⟨g', d'⟩ := gd
      have hne : g' ≠ g := by
        rintro rfl
        exact hg (List.mem_map.mpr ⟨_, hgd, rfl⟩)
      cases d' <;> simp [FileContext.groupFaults, hsame g' hne]
    rw [FileContext.valueDocs, valueSpecDocs_eq]
    simp only [valueDocs_eq c ds _ hds, List.flatMap_cons, FileContext.groupFaults]
    congr 1
    refine hrest _ fun g' hne => ?_
    split
    · rw [hasMissingComment_mark, beq_eq_false_iff_ne.mpr hne, Bool.or_false]
    · rfl
  | (_, .type _) :: ds, state, hnodup => by
    rw [FileContext.valueDocs, valueDocs_eq c ds state (List.nodup_cons.mp hnodup).2]
    · rfl
    · simp
  | (_, .func _) :: ds, state, hnodup => by
    rw [FileContext.valueDocs, valueDocs_eq c ds state (List.nodup_cons.mp hnodup).2]
    · rfl
    · simp

/-- The declarations of a file are told apart by their indices. -/
theorem mem_numberDecls {file : ℕ} : ∀ {n : ℕ} {ds : List Decl} {g : GroupId} {d : Decl},
    (g, d) ∈ numberDecls file n ds → g.file = file ∧ n ≤ g.decl
  | _, [], _, _, h => by cases h
  | n, d :: ds, g, d', h => by
    rcases List.mem_cons.mp h with heq | h
    · obtain ⟨rfl, -⟩ := Prod.mk.inj heq
      exact ⟨rfl, Nat.le_refl n⟩
    · obtain ⟨hfile, hle⟩ := mem_numberDecls h
      exact ⟨hfile, by omega⟩

theorem nodup_numberDecls (file : ℕ) : ∀ (n : ℕ) (ds : List Decl),
    ((numberDecls file n ds).map Prod.fst).Nodup
  | _, [] => List.nodup_nil
  | n, d :: ds => by
    refine List.nodup_cons.mpr ⟨fun h => ?_, nodup_numberDecls file (n + 1) ds⟩
    obtain ⟨⟨g, d'⟩, hmem, hg⟩ := List.mem_map.mp h
    obtain ⟨-, hle⟩ := mem_numberDecls hmem
    obtain rfl : g = ⟨file, n⟩ := hg
    exact absurd hle (by simp)

end GoStyle
