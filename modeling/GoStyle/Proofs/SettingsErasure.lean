import Mathlib.Data.List.Find
import GoStyle.Proofs.Erasure
import GoStyle.Proofs.RecursiveTargets
import GoStyle.Proofs.Surveys

/-!
# Settings and Go files

Go files have no say in the settings of a check. The files that decide on them have other names
(`Workdir.concat_ne`), so that without some Go file the same configuration is found
(`Workdir.findConfig_erase`) and, unless that file is given as the configuration, read. This
needs the search to start at a directory, which it does where every argument names one
(`Workdir.locate_configRoot_ne`). `Workdir.settles_erase` sums it up.
-/

namespace GoStyle

/-- Whether there is a Go file at a location. -/
def Tree.IsGoFile (t : Tree) (m : Location) : Prop :=
  t.isFile m ∧ ∃ dir name, m = dir ++ [name] ∧ extensionOf? name = some "go"

namespace Workdir

variable {w : Workdir} {m : Location}

/-! ## Files that decide on settings -/

/-- A name behind a path is the last piece. -/
theorem exists_splitSlash_join (dir : Path) {name : String} (hname : isEntryName name) :
    ∃ pieces, splitSlash (dir.join name).text.toList = pieces ++ [name.toList] := by
  obtain ⟨-, -, -, hslash⟩ := (isEntryName_iff name).mp hname
  by_cases hne : dir.text = ""
  · have hhead : name.toList.head? ≠ some '/' := fun h => hslash (List.mem_of_mem_head? h)
    refine ⟨[], ?_⟩
    rw [Path.join, if_neg hhead, hne, if_pos (by simp), String.empty_append,
      splitSlash_of_not_mem hslash, List.nil_append]
  · rcases Path.text_join hne hname with ⟨s, -, htext⟩ | htext
    · exact ⟨_, by rw [htext, splitSlash_append, splitSlash_of_not_mem hslash]⟩
    · exact ⟨_, by rw [htext, splitSlash_append, splitSlash_of_not_mem hslash]⟩

/-- A name behind a path leads to an entry of that name, if anywhere. -/
theorem exists_of_locate_join {dir : Path} {name : String} {l : Location}
    (hname : isEntryName name) (h : w.locate (dir.join name) = .ok l) : ∃ k, l = k ++ [name] := by
  obtain ⟨pieces, hpieces⟩ := exists_splitSlash_join dir hname
  obtain ⟨hnil, hdot, hup, -⟩ := (isEntryName_iff name).mp hname
  have hslack : ¬(name = "" || name = ".") := by
    simp only [Bool.or_eq_true, decide_eq_true_eq, not_or]
    exact ⟨fun h => hnil (by rw [h]; rfl), fun h => hdot (by rw [h]; rfl)⟩
  unfold locate at h
  split at h
  · cases h
  · rename_i c s htext
    rw [← htext, hpieces, List.map_append, Tree.follow_append] at h
    obtain ⟨k, -, h⟩ := h
    have hparent : name ≠ ".." := fun h => hup (by rw [h]; rfl)
    rw [List.map_singleton, String.ofList_toList, Tree.follow, if_neg hslack, if_neg hparent,
      Tree.follow] at h
    split_ifs at h
    exact ⟨k, (Except.ok.inj h).symm⟩

/-- The names of the files that decide on the settings. -/
def settingNames : List String :=
  globalConfigName :: moduleFileName :: projectConfigNames

theorem of_mem_settingNames : ∀ name ∈ settingNames,
    isEntryName name ∧ extensionOf? name ≠ some "go" := by
  decide

/-- None of these files is a Go file. -/
theorem concat_ne (hm : w.tree.IsGoFile m) (k : Location) {name : String}
    (hname : name ∈ settingNames) : k ++ [name] ≠ m := by
  intro hk
  obtain ⟨-, inner, file, rfl, hgo⟩ := hm
  obtain rfl := List.singleton_inj.mp (List.append_inj' hk rfl).2
  exact (of_mem_settingNames name hname).2 hgo

theorem locate_join_ne (hm : w.tree.IsGoFile m) (dir : Path) {name : String}
    (hname : name ∈ settingNames) : w.locate (dir.join name) ≠ .ok m := by
  intro h
  obtain ⟨k, hk⟩ := exists_of_locate_join (of_mem_settingNames name hname).1 h
  exact concat_ne hm k hname hk.symm

theorem findProjectConfig?_congr {ds ds' : List SearchDir}
    (h : List.Forall₂ (fun d d' => d.path = d'.path ∧
      ∀ name ∈ settingNames, d.holds name = d'.holds name) ds ds') :
    findProjectConfig? ds = findProjectConfig? ds' := by
  induction h with
  | nil => rfl
  | @cons d d' ds ds' hd _ ih =>
    have hfind : projectConfigNames.find? d.holds = projectConfigNames.find? d'.holds :=
      List.find?_congr fun name hname =>
        hd.2 name (List.mem_cons_of_mem _ (List.mem_cons_of_mem _ hname))
    have hmodule : d.holds moduleFileName = d'.holds moduleFileName :=
      hd.2 _ (by simp [settingNames])
    rw [findProjectConfig?, findProjectConfig?, hfind, hmodule, hd.1, ih]

theorem exists_of_findProjectConfig? {p : Path} : ∀ {ds : List SearchDir},
    findProjectConfig? ds = some p → ∃ dir : Path, ∃ name ∈ projectConfigNames, p = dir.join name
  | [], h => by cases h
  | d :: ds, h => by
    rw [findProjectConfig?] at h
    split at h
    · rename_i name hname
      exact ⟨d.path, name, List.mem_of_find?_eq_some hname, (Option.some.inj h).symm⟩
    · split_ifs at h
      exact exists_of_findProjectConfig? h

theorem findConfig_erase (hm : w.tree.IsGoFile m) {start : Path} (hstart : w.locate start ≠ .ok m)
    (explicit globalDir : Option Path) :
    (w.erase m).findConfig start explicit globalDir = w.findConfig start explicit globalDir := by
  have hentry : ∀ (k : Location), ∀ name ∈ settingNames,
      (w.erase m).tree.isFile (k ++ [name]) = w.tree.isFile (k ++ [name]) := by
    intro k name hname
    rw [Bool.eq_iff_iff, erase, Tree.isFile_erase]
    exact and_iff_left (concat_ne hm k hname)
  have hproject : findProjectConfig? ((w.erase m).searchDirs start) =
      findProjectConfig? (w.searchDirs start) := by
    apply findProjectConfig?_congr
    unfold searchDirs
    cases hl : w.locate start with
    | ok l =>
      have hne : l ≠ m := fun heq => hstart (heq ▸ hl)
      rw [(locate_erase hm.1).mpr ⟨hl, hne⟩]
      simp only [List.forall₂_map_left_iff, List.forall₂_map_right_iff, List.forall₂_same]
      exact fun k _ => ⟨trivial, hentry k⟩
    | error e =>
      cases hl' : (w.erase m).locate start with
      | ok l =>
        rw [((locate_erase hm.1).mp hl').1] at hl
        cases hl
      | error e' =>
        simp only [List.forall₂_map_left_iff, List.forall₂_map_right_iff, List.forall₂_same]
        exact fun p _ => ⟨trivial, fun name hname => isFile_erase hm.1 (locate_join_ne hm p hname)⟩
  unfold findConfig
  rw [hproject]
  cases explicit with
  | some p => rfl
  | none =>
    cases findProjectConfig? (w.searchDirs start) with
    | some p => rfl
    | none =>
      cases globalDir with
      | none => rfl
      | some d =>
        dsimp only [Option.map_some]
        rw [has_erase hm.1 (locate_join_ne hm d (by simp [settingNames]))]

/-- What is found is the file that is given, or no Go file. -/
theorem locate_findConfig_ne (hm : w.tree.IsGoFile m) {start p : Path}
    {explicit globalDir : Option Path} (hexplicit : ∀ p, explicit = some p → w.locate p ≠ .ok m)
    (hp : (w.findConfig start explicit globalDir).path? = some p) : w.locate p ≠ .ok m := by
  unfold findConfig at hp
  split at hp
  · obtain rfl := Option.some.inj hp
    exact hexplicit _ rfl
  · split at hp
    · rename_i q hproject
      obtain rfl := Option.some.inj hp
      obtain ⟨dir, name, hname, rfl⟩ := exists_of_findProjectConfig? hproject
      exact locate_join_ne hm dir (List.mem_cons_of_mem _ (List.mem_cons_of_mem _ hname))
    · split at hp
      · rename_i q hglobal
        obtain ⟨dir, -, rfl⟩ := Option.map_eq_some_iff.mp hglobal
        split_ifs at hp
        · obtain rfl := Option.some.inj hp
          exact locate_join_ne hm dir (by simp [settingNames])
        · cases hp
      · cases hp

/-! ## Reading -/

theorem readConfig_erase (hm : w.tree.isFile m) {source : ConfigSource} {c : Config}
    (hsource : ∀ p, source.path? = some p → w.locate p ≠ .ok m) :
    (w.erase m).readConfig source = .ok c ↔ w.readConfig source = .ok c := by
  unfold readConfig
  cases hp : source.path? with
  | none => rfl
  | some p =>
    have hread : ∀ text, (w.erase m).read p = .ok text ↔ w.read p = .ok text := fun text =>
      (read_erase_eq_ok_iff hm).trans (and_iff_left (hsource p hp))
    dsimp only
    cases htext : w.read p with
    | ok text => rw [(hread text).mpr htext]
    | error e =>
      cases htext' : (w.erase m).read p with
      | ok text => rw [(hread text).mp htext'] at htext; cases htext
      | error e' => simp

/-! ## Where the search starts -/

/-- Whether an argument names a directory, as it is or with the ending for all below it. -/
def NamesDirs (w : Workdir) (arg : String) : Prop :=
  w.isDir ⟨arg⟩ ∨ ∃ root, arg = root ++ "/..." ∧ w.isDir ⟨root⟩

theorem recursiveRoot?_eq_some {arg root : String} (h : recursiveRoot? arg = some root) :
    arg = root ++ "/..." := by
  rw [recursiveRoot?, Option.bind_eq_some_iff] at h
  obtain ⟨s, hafter, h⟩ := h
  split at h
  · obtain rfl := Option.some.inj h
    rw [after?_eq_some_iff, List.reverse_eq_iff] at hafter
    rw [← String.toList_inj, String.toList_append, hafter, String.toList_ofList]
    simp
  · cases h

/-- What stands before the ending is a directory or empty if the whole leads to something. -/
theorem isDir_of_locate_recursive {root : String} {l : Location}
    (h : w.locate ⟨root ++ "/..."⟩ = .ok l) : root = "" ∨ w.isDir ⟨root⟩ := by
  have htext : (root ++ "/...").toList = root.toList ++ '/' :: ['.', '.', '.'] := by
    rw [String.toList_append]
    rfl
  cases hroot : root.toList with
  | nil => exact Or.inl (String.toList_eq_nil_iff.mp hroot)
  | cons c s =>
    right
    rw [hroot, List.cons_append] at htext
    unfold locate at h
    rw [htext] at h
    dsimp only at h
    rw [← List.cons_append, splitSlash_append, List.map_append, Tree.follow_append] at h
    obtain ⟨k, hk, h⟩ := h
    have hlocate : w.locate ⟨root⟩ = .ok k := by
      unfold locate
      rw [hroot]
      exact hk
    refine isDir_iff.mpr ⟨k, hlocate, ?_⟩
    by_contra hdir
    have hpiece : (splitSlash ['.', '.', '.']).map String.ofList = ["..."] := rfl
    rw [hpiece, Tree.follow, if_neg hdir] at h
    split_ifs at h

theorem isDir_recursiveRoot? {arg root : String} (h : w.NamesDirs arg)
    (hroot : recursiveRoot? arg = some root) : root = "" ∨ w.isDir ⟨root⟩ := by
  rcases h with h | ⟨root', rfl, h⟩
  · obtain ⟨l, hl, -⟩ := isDir_iff.mp h
    exact isDir_of_locate_recursive (recursiveRoot?_eq_some hroot ▸ hl)
  · obtain rfl := Option.some.inj ((recursiveRoot?_append root').symm.trans hroot)
    exact Or.inr h

/-- The path of a directory leads to no file. -/
theorem locate_ne_of_isDir {p : Path} (hm : w.tree.isFile m) (h : w.isDir p) :
    w.locate p ≠ .ok m := by
  obtain ⟨l, hl, hdir⟩ := isDir_iff.mp h
  exact fun hp => Tree.ne_of_isDir_of_isFile hdir hm (Except.ok.inj (hl.symm.trans hp))

/-- The working directory is no file, whether it is there or not. -/
theorem locate_dot_ne (hm : w.tree.isFile m) : w.locate ⟨"."⟩ ≠ .ok m := by
  intro h
  have hfollow : w.locate ⟨"."⟩ = w.tree.follow w.here ["."] := rfl
  rw [hfollow, Tree.follow] at h
  by_cases hhere : w.tree.isDir w.here
  · rw [if_pos hhere, if_pos (by simp), Tree.follow, if_pos (Tree.has_of_isDir hhere)] at h
    exact Tree.ne_of_isDir_of_isFile hhere hm (Except.ok.inj h)
  · rw [if_neg hhere] at h
    split_ifs at h

/-- The search for a configuration starts at no file. -/
theorem locate_configRoot_ne {args : List String} (hm : w.tree.isFile m)
    (hargs : ∀ arg ∈ args, w.NamesDirs arg) : w.locate (w.configRoot args) ≠ .ok m := by
  unfold configRoot
  cases hhead : args.head? with
  | none => exact locate_dot_ne hm
  | some arg =>
    have harg := hargs arg (List.mem_of_mem_head? hhead)
    dsimp only
    by_cases hfirst : w.isDir ⟨(recursiveRoot? arg).getD arg⟩
    · rw [if_pos hfirst]
      exact locate_ne_of_isDir hm hfirst
    · -- Then the ending stands alone, and the search starts at the working directory.
      rw [if_neg hfirst]
      cases hroot : recursiveRoot? arg with
      | none =>
        rw [hroot, Option.getD_none] at hfirst
        rcases harg with h | ⟨root, rfl, -⟩
        · exact absurd h hfirst
        · rw [recursiveRoot?_append] at hroot
          cases hroot
      | some root =>
        rw [hroot, Option.getD_some] at hfirst
        obtain rfl := (isDir_recursiveRoot? harg hroot).resolve_right hfirst
        exact locate_dot_ne hm

theorem configRoot_erase (hm : w.tree.isFile m) (args : List String) :
    (w.erase m).configRoot args = w.configRoot args := by
  unfold configRoot
  cases args.head? with
  | none => rfl
  | some arg =>
    dsimp only
    rw [isDir_erase hm]

/-- Without a Go file that is not given as the configuration a check has the same settings. -/
theorem settles_erase {choice : ConfigChoice} {o : CheckOptions} (hm : w.tree.IsGoFile m)
    (hargs : ∀ arg ∈ o.paths, w.NamesDirs arg)
    (hexplicit : ∀ p, choice.explicit = some p → w.locate p ≠ .ok m) {excludes : List Glob}
    {l : Linter} : (w.erase m).Settles choice o excludes l ↔ w.Settles choice o excludes l := by
  have hroot := locate_configRoot_ne hm.1 hargs
  refine exists_congr fun config => and_congr_left fun _ => ?_
  rw [configFor, configRoot_erase hm.1, findConfig_erase hm hroot]
  exact readConfig_erase hm.1 fun p hp => locate_findConfig_ne hm hexplicit hp

end Workdir

end GoStyle
