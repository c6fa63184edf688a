import Mathlib.Data.List.Infix
import GoStyle.Config.Lookup
import GoStyle.Proofs.Locating

/-!
# The nearest configuration

The search for a configuration starts at a directory and goes up. Its directories are those that the
canonical path of the start and its ancestors name (`Location.ancestors_path`). `Tree.Configures`
says, without a search, which file in them counts: one in the nearest directory that has a
configuration file, of two the one without a dot in front, and only if no directory below is the
root of a module. That file is found if there is one, and otherwise the user's own configuration if
there is one (`Workdir.findConfig_nearest`).
-/

namespace GoStyle

/-! ## Canonical paths -/

namespace Location

variable {l : Location} {name : String}

/-- A path ends in the last name. -/
theorem exists_text_path (l : Location) (name : String) :
    ∃ s, (Location.path (l ++ [name])).text = s ++ name := by
  by_cases hl : l = []
  · exact ⟨"/", by rw [hl, path, List.nil_append, String.intercalate_singleton]⟩
  · rw [path, String.intercalate_append_of_ne_nil hl (by simp), String.intercalate_singleton]
    exact ⟨_, String.append_assoc.symm⟩

/-- The path of an entry is that of its directory with the name joined to it. -/
theorem path_concat (hl : ∀ n ∈ l, isEntryName n) (hname : isEntryName name) :
    Location.path (l ++ [name]) = l.path.join name := by
  obtain ⟨-, -, -, hslash⟩ := (isEntryName_iff name).mp hname
  have hhead : name.toList.head? ≠ some '/' := fun h => hslash (List.mem_of_mem_head? h)
  rw [Path.join, if_neg hhead]
  rcases List.eq_nil_or_concat l with rfl | ⟨k, n, rfl⟩
  · rfl
  · rw [List.concat_eq_append] at hl ⊢
    obtain ⟨hnil, -, -, hn⟩ := (isEntryName_iff n).mp (hl n (by simp))
    obtain ⟨s, hs⟩ := exists_text_path k n
    have hne : (Location.path (k ++ [n])).text ≠ "" := by
      rw [hs, Ne, ← String.toList_eq_nil_iff, String.toList_append]
      exact List.append_ne_nil_of_right_ne_nil _ hnil
    have hlast : (Location.path (k ++ [n])).text.toList.getLast? ≠ some '/' := by
      rw [hs, String.toList_append, List.getLast?_append_of_ne_nil _ hnil]
      exact fun h => hn (List.mem_of_mem_getLast? h)
    rw [if_neg (by simp [hne, hlast]), path, path,
      String.intercalate_append_of_ne_nil (by simp) (by simp), String.intercalate_singleton]
    simp only [String.append_assoc]

theorem text_path_ne (l : Location) : l.path.text ≠ "" := by
  rw [path, Ne, ← String.toList_eq_nil_iff, String.toList_append]
  exact List.cons_ne_nil '/' _

/-- The components of the path of a location are the top and the names. -/
theorem components_path (hl : ∀ n ∈ l, isEntryName n) :
    l.path.components = .root :: l.map Component.name := by
  induction l using List.reverseRecOn with
  | nil => rfl
  | append_singleton k name ih =>
    have hk : ∀ n ∈ k, isEntryName n := fun n hn => hl n (List.mem_append_left _ hn)
    have hname : isEntryName name := hl name (by simp)
    rw [path_concat hk hname, Path.components_join (text_path_ne k) hname, ih hk, List.map_append,
      List.cons_append]
    rfl

theorem downward_eq_inits : ∀ l : Location, l.downward = l.inits
  | [] => rfl
  | n :: l => by rw [downward, downward_eq_inits l, List.inits_cons]

/-- From a location upward there are its beginnings. -/
theorem mem_upward {d : Location} : d ∈ l.upward ↔ d <+: l := by
  rw [upward, List.mem_reverse, downward_eq_inits, List.mem_inits]

theorem upward_concat (l : Location) (name : String) :
    Location.upward (l ++ [name]) = (l ++ [name]) :: l.upward := by
  rw [upward, upward, downward_eq_inits, downward_eq_inits, List.inits_append,
    List.reverse_append]
  rfl

/-- The path of a location has nothing to trim. -/
theorem trimmed_path (hl : ∀ n ∈ l, isEntryName n) : l.path.trimmed = l.path := by
  rcases List.eq_nil_or_concat l with rfl | ⟨k, name, rfl⟩
  · rfl
  · rw [List.concat_eq_append] at hl ⊢
    have hname : isEntryName name := hl name (by simp)
    rw [path_concat (fun n hn => hl n (List.mem_append_left _ hn)) hname,
      Path.trimmed_join (text_path_ne k) hname]

/-- The path of a location and its ancestors are the paths of the location and those above it. -/
theorem ancestors_path (hl : ∀ n ∈ l, isEntryName n) :
    l.path.ancestors = l.upward.map Location.path := by
  have hupward : l.path.upward (l.length + 1) = l.upward.map Location.path := by
    induction l using List.reverseRecOn with
    | nil => rfl
    | append_singleton k name ih =>
      have hk : ∀ n ∈ k, isEntryName n := fun n hn => hl n (List.mem_append_left _ hn)
      have hname : isEntryName name := hl name (by simp)
      have hparent : (Location.path (k ++ [name])).parent? = some (Location.path k) := by
        rw [path_concat hk hname, Path.parent?_join (text_path_ne k) hname, trimmed_path hk]
      rw [List.length_append, List.length_singleton, Path.upward, hparent, upward_concat,
        List.map_cons, ← ih hk]
  rw [Path.ancestors, components_path hl, List.length_cons, List.length_map, hupward]

end Location

/-- The path of a location leads to it. -/
theorem Workdir.locate_path {w : Workdir} {l : Location} (h : w.tree.has l) :
    w.locate l.path = .ok l := by
  induction l using List.reverseRecOn with
  | nil => rfl
  | append_singleton k name ih =>
    have hl : ∀ n ∈ k ++ [name], isEntryName n := fun n hn => Tree.isEntryName_of_has h hn
    have hdir := Tree.isDir_of_has_concat h
    rw [Location.path_concat (fun n hn => hl n (List.mem_append_left _ hn)) (hl name (by simp))]
    exact locate_join (ih (Tree.has_of_isDir hdir)) h

/-- The directories above a directory are directories. -/
theorem Tree.isDir_of_prefix {t : Tree} {l d : Location} (h : t.isDir l) (hd : d <+: l) :
    t.isDir d := by
  induction l using List.reverseRecOn with
  | nil => rwa [List.prefix_nil.mp hd]
  | append_singleton k name ih =>
    rcases List.prefix_concat_iff.mp hd with rfl | hd
    · exact h
    · exact ih (isDir_of_has_concat (has_of_isDir h)) hd

/-- The paths that name a directory's canonical path and its ancestors lead to the directory and
those above it. -/
theorem Workdir.mem_ancestors_path {w : Workdir} {l : Location} {q : Path} (h : w.tree.isDir l) :
    q ∈ l.path.ancestors ↔ ∃ d : Location, d <+: l ∧ q = d.path ∧ w.locate q = .ok d := by
  rw [Location.ancestors_path fun n hn => Tree.isEntryName_of_has (Tree.has_of_isDir h) hn,
    List.mem_map]
  constructor
  · rintro ⟨d, hd, rfl⟩
    have hprefix := Location.mem_upward.mp hd
    exact ⟨d, hprefix, rfl, locate_path (Tree.has_of_isDir (Tree.isDir_of_prefix h hprefix))⟩
  · rintro ⟨d, hd, rfl, -⟩
    exact ⟨d, Location.mem_upward.mpr hd, rfl⟩

/-! ## The search -/

/-- Whether a file is the configuration file of a directory that has such files by these names: the
one without a dot in front, or else the one with it. -/
def IsConfigOf (holds : String → Bool) (name : String) : Prop :=
  holds name ∧ (name = "golint.toml" ∨ name = ".golint.toml" ∧ ¬holds "golint.toml")

instance (holds : String → Bool) (name : String) : Decidable (IsConfigOf holds name) :=
  inferInstanceAs (Decidable (_ ∧ _))

theorem find?_projectConfigNames {holds : String → Bool} {name : String} :
    projectConfigNames.find? holds = some name ↔ IsConfigOf holds name := by
  unfold projectConfigNames IsConfigOf
  rw [List.find?_cons, List.find?_singleton]
  cases hplain : holds "golint.toml" with
  | true =>
    constructor
    · intro h
      obtain rfl := Option.some.inj h
      exact ⟨hplain, Or.inl rfl⟩
    · rintro ⟨-, rfl | ⟨-, hno⟩⟩
      · rfl
      · exact absurd rfl hno
  | false =>
    cases hdotted : holds ".golint.toml" with
    | true =>
      constructor
      · intro h
        obtain rfl := Option.some.inj h
        exact ⟨hdotted, Or.inr ⟨rfl, by simp⟩⟩
      · rintro ⟨h, rfl | ⟨rfl, -⟩⟩
        · rw [hplain] at h
          cases h
        · rfl
    | false =>
      refine iff_of_false (by simp) ?_
      rintro ⟨h, rfl | ⟨rfl, -⟩⟩
      · rw [hplain] at h
        cases h
      · rw [hdotted] at h
        cases h

/-- The names of files that end the search: configurations, and the file in the root of a module. -/
def stopNames : List String :=
  ["golint.toml", ".golint.toml", "go.mod"]

/-- The search finds the configuration file of its first directory, or goes on if nothing in that
directory ends it. -/
theorem findProjectConfig?_cons_iff {d : SearchDir} {ds : List SearchDir} {p : Path} :
    findProjectConfig? (d :: ds) = some p ↔
      (∃ name, IsConfigOf d.holds name ∧ p = d.path.join name) ∨
        (∀ name ∈ stopNames, ¬d.holds name) ∧ findProjectConfig? ds = some p := by
  have hends : (∀ name ∈ stopNames, ¬d.holds name) ↔
      projectConfigNames.find? d.holds = none ∧ ¬d.holds moduleFileName := by
    rw [List.find?_eq_none]
    simp [stopNames, projectConfigNames, moduleFileName, and_assoc]
  rw [findProjectConfig?, hends]
  simp only [← find?_projectConfigNames]
  cases projectConfigNames.find? d.holds with
  | some name =>
    constructor
    · intro h
      exact Or.inl ⟨name, rfl, (Option.some.inj h).symm⟩
    · rintro (⟨n, hn, rfl⟩ | ⟨⟨hnone, -⟩, -⟩)
      · obtain rfl := Option.some.inj hn
        rfl
      · cases hnone
  | none => by_cases hmodule : d.holds moduleFileName <;> simp [hmodule]

/-- Whether the file of a name in a directory configures what is in another. -/
structure Tree.Configures (t : Tree) (start dir : Location) (name : String) : Prop where
  /-- The directory is the other or one above it. -/
  above : dir <+: start
  /-- The file is its configuration file. -/
  holds : IsConfigOf (fun n => t.isFile (dir ++ [n])) name
  /-- No directory below it, down to the other, has a configuration file or is the root of a module.
  -/
  nearest : ∀ d, dir <+: d → d <+: start → d ≠ dir → ∀ n ∈ stopNames, ¬t.isFile (d ++ [n])

/-- What configures a directory is in it, or configures the directory above. -/
theorem Tree.configures_concat_iff {t : Tree} {k dir : Location} {n name : String} :
    t.Configures (k ++ [n]) dir name ↔
      dir = k ++ [n] ∧ IsConfigOf (fun f => t.isFile (dir ++ [f])) name ∨
        (∀ f ∈ stopNames, ¬t.isFile (k ++ [n] ++ [f])) ∧ t.Configures k dir name := by
  constructor
  · rintro ⟨habove, hholds, hnearest⟩
    rcases List.prefix_concat_iff.mp habove with heq | hk
    · exact Or.inl ⟨heq, hholds⟩
    · have hne : k ++ [n] ≠ dir := by
        rintro rfl
        have hlength := hk.length_le
        rw [List.length_append, List.length_singleton] at hlength
        omega
      refine Or.inr ⟨hnearest _ habove (List.prefix_refl _) hne, hk, hholds, fun d hd hdk => ?_⟩
      exact hnearest d hd (hdk.trans (List.prefix_append _ _))
  · rintro (⟨rfl, hholds⟩ | ⟨hfree, hk, hholds, hnearest⟩)
    · refine ⟨List.prefix_refl _, hholds, fun d hd hd' hne => absurd ?_ hne⟩
      exact hd'.eq_of_length (le_antisymm hd'.length_le hd.length_le)
    · refine ⟨hk.trans (List.prefix_append _ _), hholds, fun d hd hd' hne => ?_⟩
      rcases List.prefix_concat_iff.mp hd' with rfl | hd'
      · exact hfree
      · exact hnearest d hd hd' hne

theorem Tree.configures_nil_iff {t : Tree} {dir : Location} {name : String} :
    t.Configures [] dir name ↔ dir = [] ∧ IsConfigOf (fun f => t.isFile (dir ++ [f])) name := by
  constructor
  · rintro ⟨habove, hholds, -⟩
    exact ⟨List.prefix_nil.mp habove, hholds⟩
  · rintro ⟨rfl, hholds⟩
    exact ⟨List.prefix_refl _, hholds, fun d _ hd hne => absurd (List.prefix_nil.mp hd) hne⟩

/-- The search from a location upward finds what configures it. -/
theorem Tree.findProjectConfig?_upward {t : Tree} {start : Location} {p : Path} :
    findProjectConfig? (start.upward.map fun d => ⟨d.path, fun name => t.isFile (d ++ [name])⟩) =
      some p ↔ ∃ dir name, t.Configures start dir name ∧ p = dir.path.join name := by
  -- From the end, for the search begins at the whole location and goes on from the one above it.
  induction start using List.reverseRecOn with
  | nil =>
    have htop : Location.upward [] = [[]] := rfl
    rw [htop, List.map_singleton, findProjectConfig?_cons_iff]
    simp [Tree.configures_nil_iff, findProjectConfig?]
  | append_singleton k n ih =>
    rw [Location.upward_concat, List.map_cons, findProjectConfig?_cons_iff, ih]
    simp only [Tree.configures_concat_iff, or_and_right, exists_or, and_assoc, exists_eq_left,
      exists_and_left]

/-! ## What is found -/

section Sources

variable {w : Workdir} {start p : Path} {globalDir : Option Path}

theorem Workdir.findConfig_project_iff : w.findConfig start none globalDir = .project p ↔
    findProjectConfig? (w.searchDirs start) = some p := by
  unfold findConfig
  cases findProjectConfig? (w.searchDirs start) with
  | some q => simp
  | none =>
    cases globalDir with
    | none => simp
    | some g => by_cases hhas : w.has (g.join globalConfigName) <;> simp [hhas]

theorem Workdir.findConfig_global_iff : w.findConfig start none globalDir = .global p ↔
    findProjectConfig? (w.searchDirs start) = none ∧
      ∃ g, globalDir = some g ∧ p = g.join "config.toml" ∧ w.has p := by
  unfold findConfig
  cases findProjectConfig? (w.searchDirs start) with
  | some q => simp
  | none =>
    cases globalDir with
    | none => simp
    | some g =>
      dsimp only [Option.map_some, globalConfigName]
      split_ifs with hhas
      · constructor
        · intro h
          obtain rfl := ConfigSource.global.inj h
          exact ⟨rfl, g, rfl, rfl, hhas⟩
        · rintro ⟨-, g', hg, rfl, -⟩
          rw [Option.some.inj hg]
      · refine iff_of_false (by simp) ?_
        rintro ⟨-, g', hg, rfl, hp⟩
        obtain rfl := Option.some.inj hg
        exact hhas hp

theorem Workdir.findConfig_builtin_iff : w.findConfig start none globalDir = .builtin ↔
    findProjectConfig? (w.searchDirs start) = none ∧
      ∀ g, globalDir = some g → ¬w.has (g.join "config.toml") := by
  unfold findConfig
  cases findProjectConfig? (w.searchDirs start) with
  | some q => simp
  | none =>
    cases globalDir with
    | none => simp
    | some g => by_cases hhas : w.has (g.join "config.toml") <;> simp [hhas, globalConfigName]

end Sources

/-- Where a configuration comes from. One that is given is taken, whatever the tree. Otherwise, from
a directory upward, the file that configures the directory is found, by its canonical path; if there
is none, the file in the user's own directory, and if that is not there either, no file. -/
theorem Workdir.findConfig_nearest (w : Workdir) (start : Path) (globalDir : Option Path) :
    (∀ given, w.findConfig start (some given) globalDir = .explicit given) ∧
    (w.isDir start → ∃ here, w.locate start = .ok here ∧
      (∀ q, q ∈ here.path.ancestors ↔
        ∃ d : Location, d <+: here ∧ q = d.path ∧ w.locate q = .ok d) ∧
      (∀ p, w.findConfig start none globalDir = .project p ↔
        ∃ dir name, w.tree.Configures here dir name ∧ p = dir.path.join name) ∧
      (∀ p, w.findConfig start none globalDir = .global p ↔
        (¬∃ dir name, w.tree.Configures here dir name) ∧
          ∃ g, globalDir = some g ∧ p = g.join "config.toml" ∧ w.has p) ∧
      (w.findConfig start none globalDir = .builtin ↔
        (¬∃ dir name, w.tree.Configures here dir name) ∧
          ∀ g, globalDir = some g → ¬w.has (g.join "config.toml"))) := by
  refine ⟨fun given => rfl, fun hstart => ?_⟩
  obtain ⟨here, hlocate, hdir⟩ := isDir_iff.mp hstart
  have hfind : ∀ p, findProjectConfig? (w.searchDirs start) = some p ↔
      ∃ dir name, w.tree.Configures here dir name ∧ p = dir.path.join name := fun p => by
    rw [searchDirs, hlocate]
    exact Tree.findProjectConfig?_upward
  have hnone : findProjectConfig? (w.searchDirs start) = none ↔
      ¬∃ dir name, w.tree.Configures here dir name := by
    rw [Option.eq_none_iff_forall_ne_some]
    constructor
    · rintro h ⟨dir, name, hconfigures⟩
      exact h _ ((hfind _).mpr ⟨dir, name, hconfigures, rfl⟩)
    · intro h p hp
      obtain ⟨dir, name, hconfigures, -⟩ := (hfind p).mp hp
      exact h ⟨dir, name, hconfigures⟩
  refine ⟨here, hlocate, fun q => mem_ancestors_path hdir, fun p => ?_, fun p => ?_, ?_⟩
  · rw [findConfig_project_iff, hfind]
  · rw [findConfig_global_iff, hnone]
  · rw [findConfig_builtin_iff, hnone]

/-- A directory with two modules, one of which has a configuration, and a configuration above both.
A directory by the name of a configuration is none, but serves as the user's own. -/
def modulesDir : Workdir :=
  ⟨⟨[["m"], ["m", "pkg"], ["m", "pkg", "golint.toml"], ["n"], ["n", "sub"], ["own"],
      ["own", "config.toml"]],
    [⟨["golint.toml"], some ""⟩, ⟨["m", ".golint.toml"], some ""⟩, ⟨["m", "go.mod"], none⟩,
      ⟨["n", "go.mod"], none⟩], by decide⟩, ["m"]⟩

/-- The configuration beside the root of the module configures a directory below. The one above is
hidden by the root of the other module, so the user's own one is found there. -/
theorem findConfig_nearest_modulesDir :
    (modulesDir.isDir ⟨"pkg/golint.toml"⟩ ∧
      modulesDir.findConfig ⟨"pkg/golint.toml"⟩ none (some ⟨"/own"⟩) =
        .project ⟨"/m/.golint.toml"⟩) ∧
    (modulesDir.isDir ⟨"../n/sub"⟩ ∧
      (∃ here, modulesDir.locate ⟨"../n/sub"⟩ = .ok here ∧
        ¬∃ dir name, modulesDir.tree.Configures here dir name) ∧
      modulesDir.findConfig ⟨"../n/sub"⟩ none (some ⟨"/own"⟩) = .global ⟨"/own/config.toml"⟩) := by
  have hm : modulesDir.isDir ⟨"pkg/golint.toml"⟩ := by decide
  have hn : modulesDir.isDir ⟨"../n/sub"⟩ := by decide
  refine ⟨⟨hm, ?_⟩, hn, ?_, by decide⟩
  · obtain ⟨here, hlocate, -, hproject, -⟩ :=
      (modulesDir.findConfig_nearest ⟨"pkg/golint.toml"⟩ (some ⟨"/own"⟩)).2 hm
    obtain rfl : ["m", "pkg", "golint.toml"] = here := by
      have hstart : modulesDir.locate ⟨"pkg/golint.toml"⟩ = .ok ["m", "pkg", "golint.toml"] := by
        decide
      exact Except.ok.inj (hstart.symm.trans hlocate)
    have hbelow : ∀ d ∈ List.inits ["m", "pkg", "golint.toml"], ["m"] <+: d → d ≠ ["m"] →
        ∀ n ∈ stopNames, ¬modulesDir.tree.isFile (d ++ [n]) := by
      decide
    refine (hproject _).mpr ⟨["m"], ".golint.toml", ⟨by decide, by decide, fun d hd hd' hne => ?_⟩,
      by decide⟩
    exact hbelow d ((List.mem_inits _ _).mpr hd') hd hne
  · obtain ⟨here, hlocate, -, -, hglobal, -⟩ :=
      (modulesDir.findConfig_nearest ⟨"../n/sub"⟩ (some ⟨"/own"⟩)).2 hn
    exact ⟨here, hlocate, ((hglobal ⟨"/own/config.toml"⟩).mp (by decide)).1⟩

end GoStyle
