import GoStyle.Proofs.JoinedPaths

/-!
# Where paths lead

A path is followed piece by piece (`Workdir.locate_eq`), so it leads on from where its beginning
leads (`Tree.follow_append`). A joined path leads to the entry of that name in the directory
(`Workdir.locate_join`), names below a directory to the entry below it (`Workdir.locate_joinAll`),
and a trimmed path to the same directory as before (`Workdir.locate_trimmed`).
-/

namespace GoStyle

/-! ## Entries -/

namespace Tree

variable {t : Tree} {l : Location} {name : String}

theorem isDir_iff : t.isDir l ↔ l = [] ∨ l ∈ t.dirs := by
  simp [Tree.isDir, isTopOr]

theorem isFile_iff : t.isFile l ↔ ∃ f ∈ t.files, f.location = l := by
  simp [Tree.isFile, Tree.fileAt?, List.find?_isSome]

theorem mem_allLocations : l ∈ allLocations t.dirs t.files ↔ l ∈ t.dirs ∨ t.isFile l := by
  rw [allLocations, List.mem_append, isFile_iff, List.mem_map]

theorem mem_allLocations_of_has (h : t.has l) : l = [] ∨ l ∈ allLocations t.dirs t.files := by
  rwa [Tree.has, Bool.or_eq_true, isDir_iff, or_assoc, ← mem_allLocations] at h

/-- Everything lies in a directory. -/
theorem isDir_of_has_concat (h : t.has (l ++ [name])) : t.isDir l := by
  have hmem := (mem_allLocations_of_has h).resolve_left (by simp)
  have hparent := (t.sound.2 _ hmem).2.2
  rwa [List.dropLast_concat] at hparent

/-- The names of entries are names. -/
theorem isEntryName_of_has (h : t.has l) (hname : name ∈ l) : isEntryName name := by
  rcases mem_allLocations_of_has h with rfl | hmem
  · cases hname
  · exact List.all_eq_true.mp (t.sound.2 l hmem).2.1 name hname

theorem has_of_isDir (h : t.isDir l) : t.has l := by
  rw [Tree.has, h, Bool.true_or]

theorem has_of_isFile (h : t.isFile l) : t.has l := by
  rw [Tree.has, h, Bool.or_true]

/-- No location is that of a directory and of a file. -/
theorem ne_of_isDir_of_isFile {m : Location} (hdir : t.isDir l) (h : t.isFile m) : l ≠ m := by
  rintro rfl
  have hmem : l ∈ t.files.map FileEntry.location := List.mem_map.mpr (isFile_iff.mp h)
  rcases isDir_iff.mp hdir with rfl | hdir
  · exact (t.sound.2 [] (List.mem_append_right t.dirs hmem)).1 rfl
  · exact (List.nodup_append.mp t.sound.1).2.2 l hdir l hmem rfl

/-! ## Following -/

/-- Following leads on from where the beginning leads. -/
theorem follow_append {qs : List String} {m : Location} : ∀ {ps : List String} {l : Location},
    t.follow l (ps ++ qs) = .ok m ↔ ∃ k, t.follow l ps = .ok k ∧ t.follow k qs = .ok m
  | [], l => by
    rw [List.nil_append, Tree.follow]
    constructor
    · intro h
      have hhas : t.has l := by
        cases qs with
        | nil =>
          rw [Tree.follow] at h
          by_contra hno
          rw [if_neg hno] at h
          cases h
        | cons q qs =>
          rw [Tree.follow] at h
          by_contra hno
          rw [Tree.has, Bool.or_eq_true, not_or] at hno
          rw [if_neg hno.1, if_neg hno.2] at h
          cases h
      exact ⟨l, by rw [if_pos hhas], h⟩
    · rintro ⟨k, hk, h⟩
      split at hk
      · obtain rfl := Except.ok.inj hk
        exact h
      · cases hk
  | p :: ps, l => by
    rw [List.cons_append, Tree.follow, Tree.follow]
    split_ifs
    · exact follow_append
    · exact follow_append
    · exact follow_append
    · exact iff_of_false (by simp) (by simp)
    · exact iff_of_false (by simp) (by simp)

/-- What is no component leads nowhere else. -/
theorem follow_slack : ∀ {slack : List (List Char)}, (∀ s ∈ slack, isSlack s) → t.isDir l →
    t.follow l (slack.map String.ofList) = .ok l
  | [], _, hdir => by rw [List.map_nil, Tree.follow, if_pos (has_of_isDir hdir)]
  | s :: slack, h, hdir => by
    have hs : String.ofList s = "" ∨ String.ofList s = "." := by
      rcases (isSlack_iff s).mp (h s List.mem_cons_self) with rfl | rfl
      · exact Or.inl rfl
      · exact Or.inr rfl
    rw [List.map_cons, Tree.follow, if_pos hdir, if_pos (by simpa using hs),
      follow_slack (fun s hs => h s (List.mem_cons_of_mem _ hs)) hdir]

/-- What is no component leads from directories only, and to themselves. -/
theorem eq_of_follow_slack {slack : List (List Char)} {m : Location}
    (hslack : ∀ s ∈ slack, isSlack s) (h : t.follow l (slack.map String.ofList) = .ok m) :
    l = m := by
  by_cases hdir : t.isDir l
  · rw [follow_slack hslack hdir] at h
    exact Except.ok.inj h
  · cases slack with
    | nil =>
      rw [List.map_nil, Tree.follow] at h
      split_ifs at h
      exact Except.ok.inj h
    | cons s slack =>
      rw [List.map_cons, Tree.follow, if_neg hdir] at h
      split_ifs at h

/-- A name leads from a directory to its entry of that name. -/
theorem follow_name (hname : isEntryName name) (hdir : t.isDir l) (h : t.has (l ++ [name])) :
    t.follow l [name] = .ok (l ++ [name]) := by
  obtain ⟨hnil, hdot, hup, -⟩ := (isEntryName_iff name).mp hname
  have hslack : ¬(name = "" || name = ".") := by
    simp only [Bool.or_eq_true, decide_eq_true_eq, not_or]
    exact ⟨fun h => hnil (by rw [h]; rfl), fun h => hdot (by rw [h]; rfl)⟩
  rw [Tree.follow, if_pos hdir, if_neg hslack, if_neg fun h => hup (by rw [h]; rfl), Tree.follow,
    if_pos h]

end Tree

/-! ## Locating -/

namespace Workdir

variable {w : Workdir} {p : Path} {l : Location}

/-- Where a path is followed from. -/
def base (w : Workdir) (p : Path) : Location :=
  if p.lead = ['/'] then [] else w.here

/-- A path is followed by its pieces. -/
theorem locate_eq (hne : p.text ≠ "") :
    w.locate p = w.tree.follow (w.base p) (p.pieces.map String.ofList) := by
  unfold locate base Path.pieces
  rcases p.lead_cases with ⟨s, hs, hlead⟩ | ⟨s, hs, hlead, hrest⟩ | ⟨hroot, hlead⟩
  · rw [hlead, hs]
    rfl
  · -- The dot and the empty piece behind it both stay where they are.
    obtain ⟨more, hmore⟩ : ∃ more, splitSlash s = [] :: more := by
      rcases hrest with rfl | hslash
      · exact ⟨[], rfl⟩
      · obtain ⟨s, rfl⟩ := List.head?_eq_some_iff.mp hslash
        exact ⟨splitSlash s, rfl⟩
    have hdot : splitSlash ('.' :: s) = ['.'] :: more := by
      rw [splitSlash_cons_of_ne (by decide), hmore, consHead]
    have hdrop : ('.' :: s).drop ['.'].length = s := rfl
    rw [hlead, hs, hdrop, hmore]
    dsimp only
    rw [hdot, List.map_cons, List.map_cons, Tree.follow, Tree.follow]
    rfl
  · rw [hlead, List.length_nil, List.drop_zero]
    cases hs : p.text.toList with
    | nil => exact absurd (String.toList_eq_nil_iff.mp hs) hne
    | cons c s =>
      have hc : c ≠ '/' := fun h => hroot (by rw [hs, h]; rfl)
      dsimp only
      rw [if_neg hc, if_neg (by simp)]

theorem text_ne_of_locate (h : w.locate p = .ok l) : p.text ≠ "" := by
  intro hnil
  rw [locate, hnil] at h
  cases h

theorem base_congr {q : Path} (h : q.lead = p.lead) : w.base q = w.base p := by
  rw [base, base, h]

/-- A joined path leads to the entry of that name. -/
theorem locate_join {dir : Path} {name : String} (hlocate : w.locate dir = .ok l)
    (h : w.tree.has (l ++ [name])) : w.locate (dir.join name) = .ok (l ++ [name]) := by
  have hne := text_ne_of_locate hlocate
  have hname : isEntryName name := Tree.isEntryName_of_has h (by simp)
  have hdir := Tree.isDir_of_has_concat h
  obtain ⟨kept, slack, hpieces, hslack, hjoin⟩ := Path.pieces_join hne hname
  rw [locate_eq hne, hpieces, List.map_append, Tree.follow_append] at hlocate
  obtain ⟨k, hkept, hrest⟩ := hlocate
  obtain rfl := Tree.eq_of_follow_slack
    (fun s hs => (isSlack_iff s).mpr (Or.inl (hslack s hs))) hrest
  rw [locate_eq (Path.text_join_ne hne hname), base_congr (Path.lead_join hne hname), hjoin,
    List.map_append, Tree.follow_append]
  refine ⟨k, hkept, ?_⟩
  rw [List.map_singleton, String.ofList_toList]
  exact Tree.follow_name hname hdir h

/-- A trimmed path leads to the same directory. -/
theorem locate_trimmed (hlocate : w.locate p = .ok l) (hdir : w.tree.isDir l) :
    w.locate p.trimmed = .ok l := by
  have hne := text_ne_of_locate hlocate
  obtain ⟨slack, hpieces, hslack⟩ := exists_dropSlack p.pieces
  rw [locate_eq hne, hpieces, List.map_append, Tree.follow_append] at hlocate
  obtain ⟨k, hkept, hrest⟩ := hlocate
  obtain rfl := Tree.eq_of_follow_slack hslack hrest
  rw [locate_eq (Path.text_trimmed_ne hne), base_congr (Path.lead_trimmed hne),
    Path.pieces_trimmed hne]
  split_ifs with hnil
  · rw [hnil, List.map_nil, Tree.follow] at hkept
    split_ifs at hkept
    obtain rfl := Except.ok.inj hkept
    exact Tree.follow_slack (by simp [isSlack_iff]) hdir
  · exact hkept

/-- Names below a directory lead to the entry below it. -/
theorem locate_joinAll {root : Path} (hlocate : w.locate root = .ok l) {names : List String}
    (h : w.tree.has (l ++ names)) : w.locate (root.joinAll names) = .ok (l ++ names) := by
  induction names using List.reverseRecOn with
  | nil => rwa [List.append_nil]
  | append_singleton names name ih =>
    rw [← List.append_assoc] at h
    have hdir := Tree.isDir_of_has_concat h
    rw [Path.joinAll_concat, ← List.append_assoc]
    exact locate_join (ih (Tree.has_of_isDir hdir)) h

theorem isDir_iff : w.isDir p ↔ ∃ l, w.locate p = .ok l ∧ w.tree.isDir l := by
  unfold isDir
  cases w.locate p <;> simp

theorem isFile_iff : w.isFile p ↔ ∃ l, w.locate p = .ok l ∧ w.tree.isFile l := by
  unfold isFile
  cases w.locate p <;> simp

end Workdir

end GoStyle
