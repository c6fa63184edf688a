import Mathlib.Data.List.Lex
import Mathlib.Data.List.Sort
import Mathlib.Data.String.Basic
import GoStyle.Proofs.Listings

/-!
# Erasing a file

`Tree.erase` takes a file out of a tree. The directories stay, and so do the other files. A path
leads where it led before, only no longer to that file (`Workdir.locate_erase`), what it leads to
holds the same text (`Workdir.read_erase`), and a directory lists what it listed before, in the same
order, only no longer that file (`Tree.goNames_erase`).
-/

namespace GoStyle

/-! ## Trees -/

theorem Tree.Sound.erase {dirs : List Location} {files : List FileEntry}
    (h : Tree.Sound dirs files) (m : Location) :
    Tree.Sound dirs (files.filter fun f => f.location != m) := by
  have hsub : (allLocations dirs (files.filter fun f => f.location != m)).Sublist
      (allLocations dirs files) :=
    (List.filter_sublist.map FileEntry.location).append_left dirs
  exact ⟨h.1.sublist hsub, fun l hl => h.2 l (hsub.subset hl)⟩

/-- The tree without the file at a location. -/
def Tree.erase (t : Tree) (m : Location) : Tree :=
  ⟨t.dirs, t.files.filter fun f => f.location != m, t.sound.erase m⟩

namespace Tree

variable {t : Tree} {l m : Location} {name : String}

@[simp]
theorem isDir_erase : (t.erase m).isDir l = t.isDir l :=
  rfl

theorem isFile_erase : (t.erase m).isFile l ↔ t.isFile l ∧ l ≠ m := by
  simp only [isFile_iff, Tree.erase, List.mem_filter, bne_iff_ne]
  constructor
  · rintro ⟨f, ⟨hf, hne⟩, rfl⟩
    exact ⟨⟨f, hf, rfl⟩, hne⟩
  · rintro ⟨⟨f, hf, rfl⟩, hne⟩
    exact ⟨f, ⟨hf, hne⟩, rfl⟩

theorem fileAt?_erase (h : l ≠ m) : (t.erase m).fileAt? l = t.fileAt? l := by
  have hboth : ∀ f : FileEntry,
      decide ((f.location != m) = true ∧ (f.location == l) = true) = (f.location == l) := by
    intro f
    rw [Bool.eq_iff_iff, decide_eq_true_iff, and_iff_right_iff_imp]
    intro hl
    rw [bne_iff_ne, beq_iff_eq.mp hl]
    exact h
  rw [Tree.fileAt?, Tree.erase, List.find?_filter, Tree.fileAt?]
  simp only [hboth]

theorem has_erase (hm : t.isFile m) : (t.erase m).has l ↔ t.has l ∧ l ≠ m := by
  rw [Tree.has, Tree.has, Bool.or_eq_true, Bool.or_eq_true, isDir_erase, isFile_erase]
  constructor
  · rintro (h | h)
    · exact ⟨Or.inl h, ne_of_isDir_of_isFile h hm⟩
    · exact ⟨Or.inr h.1, h.2⟩
  · rintro ⟨h | h, hne⟩
    · exact Or.inl h
    · exact Or.inr ⟨h, hne⟩

/-- Following leads where it led before, only no longer to the file. -/
theorem follow_erase (hm : t.isFile m) {k : Location} : ∀ {ps : List String} {l : Location},
    (t.erase m).follow l ps = .ok k ↔ t.follow l ps = .ok k ∧ k ≠ m
  | [], l => by
    rw [Tree.follow, Tree.follow]
    by_cases hhas : (t.erase m).has l
    · obtain ⟨h, hne⟩ := (has_erase hm).mp hhas
      rw [if_pos hhas, if_pos h]
      constructor
      · intro hk
        exact ⟨hk, Except.ok.inj hk ▸ hne⟩
      · exact And.left
    · rw [if_neg hhas]
      refine iff_of_false (by simp) ?_
      rintro ⟨hk, hne⟩
      split_ifs at hk with h
      obtain rfl := Except.ok.inj hk
      exact hhas ((has_erase hm).mpr ⟨h, hne⟩)
  | p :: ps, l => by
    rw [Tree.follow, Tree.follow, isDir_erase]
    by_cases hdir : t.isDir l
    · rw [if_pos hdir, if_pos hdir]
      split_ifs
      · exact follow_erase hm
      · exact follow_erase hm
      · exact follow_erase hm
    · rw [if_neg hdir, if_neg hdir]
      refine iff_of_false (fun h => ?_) fun h => ?_
      · split_ifs at h
      · obtain ⟨h, -⟩ := h
        split_ifs at h

/-! ## Listings -/

/-- Files are listed in the order of the names that lead to them. -/
theorem pairwise_filesUnder (t : Tree) (l : Location) : (t.filesUnder l).Pairwise (· ≤ ·) := by
  have hle : ∀ a b : List String, (!decide (b < a)) = true ↔ a ≤ b := by
    intro a b
    rw [Bool.not_eq_true', decide_eq_false_iff_not, not_lt]
  refine (List.pairwise_mergeSort (fun a b c hab hbc => ?_) (fun a b => ?_) _).imp fun h => ?_
  · rw [hle] at hab hbc ⊢
    exact hab.trans hbc
  · rw [Bool.or_eq_true, hle, hle]
    exact le_total a b
  · exact (hle _ _).mp h

/-- The other files below a directory are listed as before. -/
theorem filesUnder_erase (t : Tree) (l m : Location) :
    (t.erase m).filesUnder l = (t.filesUnder l).filter fun names => l ++ names != m := by
  have hnodup := t.nodup_filesUnder l
  have hperm : ((t.erase m).filesUnder l).Perm
      ((t.filesUnder l).filter fun names => l ++ names != m) := by
    rw [List.perm_ext_iff_of_nodup ((t.erase m).nodup_filesUnder l) (hnodup.filter _)]
    intro names
    rw [List.mem_filter, mem_filesUnder, mem_filesUnder, isFile_erase, bne_iff_ne]
  exact hperm.eq_of_pairwise' ((t.erase m).pairwise_filesUnder l)
    ((t.pairwise_filesUnder l).filter _)

theorem filesIn_erase (t : Tree) (l m : Location) :
    (t.erase m).filesIn l = (t.filesIn l).filter fun name => l ++ [name] != m := by
  rw [filesIn, filesUnder_erase, filesIn, List.filterMap_filter, List.filter_filterMap]
  refine List.filterMap_congr fun names _ => ?_
  rcases names with _ | ⟨name, _ | ⟨next, names⟩⟩
  · simp
  · by_cases h : l ++ [name] = m <;> simp [Option.filter_some, h]
  · simp

/-- The other Go files in a directory are listed as before. -/
theorem goNames_erase (t : Tree) (l m : Location) :
    (t.erase m).goNames l = (t.goNames l).filter fun name => l ++ [name] != m := by
  rw [goNames, filesIn_erase, goNames, List.filter_comm]

end Tree

/-! ## Paths -/

/-- The working directory in the tree without the file at a location. -/
def Workdir.erase (w : Workdir) (m : Location) : Workdir :=
  { w with tree := w.tree.erase m }

namespace Workdir

variable {w : Workdir} {m l : Location} {p : Path}

/-- A path leads where it led before, only no longer to the file. -/
theorem locate_erase (hm : w.tree.isFile m) :
    (w.erase m).locate p = .ok l ↔ w.locate p = .ok l ∧ l ≠ m := by
  unfold locate
  split
  · exact iff_of_false (by simp) (by simp)
  · exact Tree.follow_erase hm

theorem isDir_erase (hm : w.tree.isFile m) : (w.erase m).isDir p = w.isDir p := by
  rw [Bool.eq_iff_iff, isDir_iff, isDir_iff]
  refine exists_congr fun l => ?_
  rw [locate_erase hm, and_assoc, erase, Tree.isDir_erase]
  exact and_congr_right fun _ =>
    and_iff_right_of_imp fun hdir => Tree.ne_of_isDir_of_isFile hdir hm

theorem isFile_erase (hm : w.tree.isFile m) (hp : w.locate p ≠ .ok m) :
    (w.erase m).isFile p = w.isFile p := by
  rw [Bool.eq_iff_iff, isFile_iff, isFile_iff]
  refine exists_congr fun l => ?_
  rw [locate_erase hm, erase, Tree.isFile_erase]
  constructor
  · rintro ⟨⟨hl, -⟩, h, -⟩
    exact ⟨hl, h⟩
  · rintro ⟨hl, h⟩
    have hne : l ≠ m := fun heq => hp (heq ▸ hl)
    exact ⟨⟨hl, hne⟩, h, hne⟩

theorem has_iff : w.has p ↔ ∃ l, w.locate p = .ok l := by
  unfold has
  cases w.locate p <;> simp

theorem has_erase (hm : w.tree.isFile m) (hp : w.locate p ≠ .ok m) :
    (w.erase m).has p = w.has p := by
  rw [Bool.eq_iff_iff, has_iff, has_iff]
  refine exists_congr fun l => ?_
  rw [locate_erase hm]
  exact and_iff_left_of_imp fun hl heq => hp (heq ▸ hl)

/-- What a path leads to holds the same text as before. -/
theorem read_erase (hm : w.tree.isFile m) (hl : w.locate p = .ok l) (hne : l ≠ m) :
    (w.erase m).read p = w.read p := by
  rw [read, (locate_erase hm).mpr ⟨hl, hne⟩, read, hl]
  dsimp only
  rw [erase, Tree.fileAt?_erase hne]

/-- The texts that are read are those that were read before, that of the file left out. -/
theorem read_erase_eq_ok_iff (hm : w.tree.isFile m) {text : String} :
    (w.erase m).read p = .ok text ↔ w.read p = .ok text ∧ w.locate p ≠ .ok m := by
  cases hlocate : (w.erase m).locate p with
  | ok l =>
    obtain ⟨hl, hne⟩ := (locate_erase hm).mp hlocate
    rw [read_erase hm hl hne, hl]
    exact (and_iff_left fun heq => hne (Except.ok.inj heq)).symm
  | error e =>
    rw [read, hlocate]
    refine iff_of_false (by simp) ?_
    rintro ⟨hread, hp⟩
    cases hl : w.locate p with
    | error e =>
      rw [read, hl] at hread
      cases hread
    | ok l =>
      have hne : l ≠ m := fun heq => hp (by rw [hl, heq])
      rw [(locate_erase hm).mpr ⟨hl, hne⟩] at hlocate
      cases hlocate

end Workdir

end GoStyle
