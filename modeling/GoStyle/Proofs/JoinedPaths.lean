import Mathlib.Data.List.Induction
import Mathlib.Data.List.TakeWhile
import GoStyle.Tree.GoFiles

/-!
# Joined paths

What joining a name to a path and taking the parent do to a path's pieces. A name of an entry is one
more piece (`Path.pieces_join`) and so one more component (`Path.components_join`), and the parent
of the joined path is the path itself, without what is no component at its end
(`Path.parent?_join`). `Path.trimmed` is what remains of a path then; it has the same components.
-/

namespace GoStyle

/-! ## Splitting and joining at slashes -/

theorem splitSlash_cons_of_ne {c : Char} (h : c ≠ '/') (s : List Char) :
    splitSlash (c :: s) = consHead c (splitSlash s) := by
  rw [splitSlash]
  exact h

/-- A slash between two texts stands between their pieces. -/
theorem splitSlash_append (t : List Char) :
    ∀ s : List Char, splitSlash (s ++ '/' :: t) = splitSlash s ++ splitSlash t
  | [] => rfl
  | c :: s => by
    have ih := splitSlash_append t s
    by_cases hc : c = '/'
    · subst hc
      rw [List.cons_append, splitSlash, splitSlash, ih, List.cons_append]
    · rw [List.cons_append, splitSlash_cons_of_ne hc, splitSlash_cons_of_ne hc, ih]
      cases hs : splitSlash s with
      | nil => exact absurd hs (splitSlash_ne_nil s)
      | cons l ls => rfl

theorem splitSlash_of_not_mem : ∀ {s : List Char}, '/' ∉ s → splitSlash s = [s]
  | [], _ => rfl
  | c :: s, h => by
    have hc : c ≠ '/' := fun hc => h (hc ▸ List.mem_cons_self)
    have hs : '/' ∉ s := fun hs => h (List.mem_cons_of_mem c hs)
    rw [splitSlash_cons_of_ne hc, splitSlash_of_not_mem hs, consHead]

theorem not_mem_of_mem_splitSlash : ∀ {s piece : List Char}, piece ∈ splitSlash s → '/' ∉ piece
  | [], piece, h => by
    obtain rfl : piece = [] := by simpa [splitSlash] using h
    exact List.not_mem_nil
  | c :: s, piece, h => by
    by_cases hc : c = '/'
    · subst hc
      rw [splitSlash, List.mem_cons] at h
      rcases h with rfl | h
      · exact List.not_mem_nil
      · exact not_mem_of_mem_splitSlash h
    · rw [splitSlash_cons_of_ne hc] at h
      cases hs : splitSlash s with
      | nil => exact absurd hs (splitSlash_ne_nil s)
      | cons l ls =>
        rw [hs, consHead, List.mem_cons] at h
        have hin : ∀ piece ∈ l :: ls, '/' ∉ piece := fun piece hp =>
          not_mem_of_mem_splitSlash (hs ▸ hp)
        rcases h with rfl | h
        · exact List.not_mem_cons_of_ne_of_not_mem (Ne.symm hc) (hin l List.mem_cons_self)
        · exact hin piece (List.mem_cons_of_mem l h)

theorem joinSlash_cons (l : List Char) {ls : List (List Char)} (h : ls ≠ []) :
    joinSlash (l :: ls) = l ++ '/' :: joinSlash ls := by
  cases ls with
  | nil => exact absurd rfl h
  | cons m ms => rfl

theorem joinSlash_append : ∀ {ls ms : List (List Char)}, ls ≠ [] → ms ≠ [] →
    joinSlash (ls ++ ms) = joinSlash ls ++ '/' :: joinSlash ms
  | [l], ms, _, hms => joinSlash_cons l hms
  | l :: l' :: ls, ms, _, hms => by
    have ih := joinSlash_append (List.cons_ne_nil l' ls) hms
    rw [List.cons_append, joinSlash_cons l (by simp), ih, joinSlash_cons l (by simp),
      List.append_assoc, List.cons_append]

/-- Pieces without slashes are got back from the text. -/
theorem splitSlash_joinSlash : ∀ {ls : List (List Char)}, ls ≠ [] → (∀ l ∈ ls, '/' ∉ l) →
    splitSlash (joinSlash ls) = ls
  | [l], _, h => by
    rw [joinSlash, splitSlash_of_not_mem (h l List.mem_cons_self)]
  | l :: l' :: ls, _, h => by
    have ih := splitSlash_joinSlash (List.cons_ne_nil l' ls) fun m hm =>
      h m (List.mem_cons_of_mem l hm)
    rw [joinSlash_cons l (by simp), splitSlash_append, ih,
      splitSlash_of_not_mem (h l List.mem_cons_self), List.singleton_append]

/-! ## Slack -/

theorem exists_dropSlack (pieces : List (List Char)) :
    ∃ slack, pieces = dropSlack pieces ++ slack ∧ ∀ s ∈ slack, isSlack s := by
  refine ⟨(pieces.reverse.takeWhile isSlack).reverse, ?_, fun s hs => ?_⟩
  · rw [dropSlack, ← List.reverse_append, List.takeWhile_append_dropWhile, List.reverse_reverse]
  · exact List.mem_takeWhile_imp (List.mem_reverse.mp hs)

/-- Slack at the end makes no difference to what is left of pieces without it. -/
theorem dropSlack_append (pieces : List (List Char)) {slack : List (List Char)}
    (h : ∀ s ∈ slack, isSlack s) : dropSlack (pieces ++ slack) = dropSlack pieces := by
  have hdrop : slack.reverse.dropWhile isSlack = [] :=
    List.dropWhile_eq_nil_iff.mpr fun s hs => h s (List.mem_reverse.mp hs)
  rw [dropSlack, dropSlack, List.reverse_append, List.dropWhile_append, hdrop]
  rfl

theorem dropSlack_concat (pieces : List (List Char)) {s : List Char} (h : isSlack s = false) :
    dropSlack (pieces ++ [s]) = pieces ++ [s] := by
  rw [dropSlack, List.reverse_append, List.reverse_singleton, List.singleton_append,
    List.dropWhile_cons_of_neg (by simp [h]), List.reverse_cons, List.reverse_reverse]

theorem filterMap_slack {slack : List (List Char)} (h : ∀ s ∈ slack, isSlack s) :
    slack.filterMap Component.ofPiece? = [] :=
  List.filterMap_eq_nil_iff.mpr fun s hs => Option.isNone_iff_eq_none.mp (h s hs)

theorem isSlack_iff (s : List Char) : isSlack s ↔ s = [] ∨ s = ['.'] := by
  unfold isSlack Component.ofPiece?
  split_ifs with hslack hup
  · simpa using hslack
  · subst hup
    simp
  · simpa using hslack

/-! ## Names of entries -/

theorem isEntryName_iff (name : String) : isEntryName name ↔
    name.toList ≠ [] ∧ name.toList ≠ ['.'] ∧ name.toList ≠ ['.', '.'] ∧ '/' ∉ name.toList := by
  have htext : ∀ t : String, name ≠ t ↔ name.toList ≠ t.toList := fun t =>
    String.toList_inj.symm.not
  rw [isEntryName, Bool.and_eq_true, Bool.and_eq_true, Bool.and_eq_true, bne_iff_ne, bne_iff_ne,
    bne_iff_ne, htext, htext, htext, Bool.not_eq_true', List.contains_eq_mem,
    decide_eq_false_iff_not, and_assoc, and_assoc]
  rfl

theorem ofPiece?_of_isEntryName {name : String} (h : isEntryName name) :
    Component.ofPiece? name.toList = some (.name name) := by
  obtain ⟨hnil, hdot, hup, -⟩ := (isEntryName_iff name).mp h
  rw [Component.ofPiece?, if_neg (by simp [hnil, hdot]), if_neg hup, String.ofList_toList]

theorem isSlack_of_isEntryName {name : String} (h : isEntryName name) :
    isSlack name.toList = false := by
  rw [isSlack, ofPiece?_of_isEntryName h]
  rfl

/-! ## Leads and pieces -/

theorem Path.text_ofList (s : List Char) : (Path.mk (String.ofList s)).text.toList = s :=
  String.toList_ofList

/-- A lead is a slash in front, or a dot in front of a slash or at the end. -/
theorem Path.lead_cases (p : Path) :
    (∃ rest, p.text.toList = '/' :: rest ∧ p.lead = ['/']) ∨
    (∃ rest, p.text.toList = '.' :: rest ∧ p.lead = ['.'] ∧
      (rest = [] ∨ rest.head? = some '/')) ∨
    (p.text.toList.head? ≠ some '/' ∧ p.lead = []) := by
  unfold Path.lead
  split
  · rename_i s hs
    exact Or.inl ⟨s, hs, rfl⟩
  · rename_i hs
    exact Or.inr (Or.inl ⟨[], hs, rfl, Or.inl rfl⟩)
  · rename_i s hs
    exact Or.inr (Or.inl ⟨'/' :: s, hs, rfl, Or.inr rfl⟩)
  · rename_i hroot _ _
    refine Or.inr (Or.inr ⟨fun h => ?_, rfl⟩)
    obtain ⟨s, hs⟩ := List.head?_eq_some_iff.mp h
    exact hroot s hs

theorem Path.exists_lead (p : Path) : ∃ rest, p.text.toList = p.lead ++ rest ∧
    (p.lead = [] ∨ rest = [] ∨ rest.head? = some '/' ∨ p.lead.head? = some '/') := by
  rcases p.lead_cases with ⟨rest, htext, hlead⟩ | ⟨rest, htext, hlead, hrest⟩ | ⟨-, hlead⟩
  · exact ⟨rest, by rw [htext, hlead]; rfl, by simp [hlead]⟩
  · refine ⟨rest, by rw [htext, hlead]; rfl, ?_⟩
    rcases hrest with hnil | hslash
    · exact Or.inr (Or.inl hnil)
    · exact Or.inr (Or.inr (Or.inl hslash))
  · exact ⟨p.text.toList, by rw [hlead]; rfl, Or.inl hlead⟩

/-- The lead and the pieces give back the text. -/
theorem Path.lead_append_pieces (p : Path) : p.lead ++ joinSlash p.pieces = p.text.toList := by
  obtain ⟨rest, hrest, -⟩ := p.exists_lead
  rw [Path.pieces, hrest, List.drop_left, joinSlash_splitSlash]

/-- Pieces hold no slashes. -/
theorem Path.not_mem_of_mem_pieces {p : Path} {piece : List Char} (h : piece ∈ p.pieces) :
    '/' ∉ piece :=
  not_mem_of_mem_splitSlash h

/-- What follows a path has no part in its lead, unless it could go on with the first name. -/
theorem Path.lead_append {s tail : List Char} (hs : s ≠ [])
    (h : tail = [] ∨ tail.head? = some '/' ∨ s.head? = some '/') :
    (Path.mk (String.ofList (s ++ tail))).lead = (Path.mk (String.ofList s)).lead := by
  unfold Path.lead
  rw [Path.text_ofList, Path.text_ofList]
  obtain ⟨c, s, rfl⟩ := List.exists_cons_of_ne_nil hs
  rcases h with rfl | htail | hroot
  · rw [List.append_nil]
  · obtain ⟨t, rfl⟩ : ∃ t, tail = '/' :: t := by
      cases tail with
      | nil => simp at htail
      | cons d t => exact ⟨t, by simpa using htail⟩
    by_cases hc : c = '/'
    · subst hc
      rfl
    · by_cases hdot : c = '.'
      · subst hdot
        cases s with
        | nil => rfl
        | cons d s =>
          by_cases hd : d = '/'
          · subst hd
            rfl
          · simp [hd]
      · simp [hc, hdot]
  · obtain rfl : c = '/' := by simpa using hroot
    rfl

/-- A path that is not empty and has no lead begins with a name or with `..`. -/
theorem Path.not_slack_of_lead_eq_nil {p : Path} (hne : p.text ≠ "") (hlead : p.lead = [])
    {f : List Char} {fs : List (List Char)} (h : p.pieces = f :: fs) : isSlack f = false := by
  by_contra hslack
  rw [Bool.not_eq_false] at hslack
  have htext : p.text.toList = joinSlash (f :: fs) := by
    rw [← p.lead_append_pieces, hlead, List.nil_append, h]
  have hnil : p.text.toList ≠ [] := fun hnil => hne (String.toList_eq_nil_iff.mp hnil)
  unfold Path.lead at hlead
  rcases (isSlack_iff f).mp hslack with rfl | rfl
  · cases fs with
    | nil => exact hnil htext
    | cons g fs =>
      rw [htext, joinSlash_cons [] (List.cons_ne_nil g fs)] at hlead
      cases hlead
  · cases fs with
    | nil =>
      rw [htext] at hlead
      cases hlead
    | cons g fs =>
      rw [htext, joinSlash_cons ['.'] (List.cons_ne_nil g fs)] at hlead
      cases hlead

/-! ## Trimmed paths -/

/-- A path without what is no component at its end. -/
def Path.trimmed (p : Path) : Path :=
  ⟨String.ofList (p.lead ++ joinSlash (dropSlack p.pieces))⟩

/-- Only a lead is left of a path that has no other components. -/
theorem Path.lead_ne_nil {p : Path} (hne : p.text ≠ "") (h : dropSlack p.pieces = []) :
    p.lead ≠ [] := by
  intro hlead
  obtain ⟨slack, hpieces, hslack⟩ := exists_dropSlack p.pieces
  rw [h, List.nil_append] at hpieces
  cases hp : p.pieces with
  | nil => exact splitSlash_ne_nil _ hp
  | cons f fs =>
    have hfirst := p.not_slack_of_lead_eq_nil hne hlead hp
    rw [hslack f (hpieces ▸ hp ▸ List.mem_cons_self)] at hfirst
    cases hfirst

theorem Path.text_trimmed (p : Path) :
    p.trimmed.text.toList = p.lead ++ joinSlash (dropSlack p.pieces) :=
  String.toList_ofList

/-- A path goes on, where it is trimmed, with a slash. -/
theorem Path.exists_tail {p : Path} (hne : p.text ≠ "") : ∃ tail,
    p.text.toList = p.trimmed.text.toList ++ tail ∧ p.trimmed.text.toList ≠ [] ∧
      (tail = [] ∨ tail.head? = some '/' ∨ p.trimmed.text.toList.head? = some '/') := by
  obtain ⟨slack, hpieces, -⟩ := exists_dropSlack p.pieces
  rw [p.text_trimmed]
  by_cases hkept : dropSlack p.pieces = []
  · obtain ⟨rest, hrest, hcases⟩ := p.exists_lead
    have hlead := p.lead_ne_nil hne hkept
    rw [hkept, joinSlash, List.append_nil]
    exact ⟨rest, hrest, hlead, hcases.resolve_left hlead⟩
  · have htext := p.lead_append_pieces
    have hhead : p.lead ++ joinSlash (dropSlack p.pieces) ≠ [] := by
      intro hnil
      obtain ⟨hlead, hjoin⟩ := List.append_eq_nil_iff.mp hnil
      obtain ⟨f, fs, hf⟩ := List.exists_cons_of_ne_nil hkept
      have hbegin : p.pieces = f :: (fs ++ slack) := by rw [hpieces, hf]; rfl
      have hfirst : isSlack f = false := p.not_slack_of_lead_eq_nil hne hlead hbegin
      rw [hf] at hjoin
      cases fs with
      | nil =>
        obtain rfl : f = [] := hjoin
        cases hfirst
      | cons g fs =>
        rw [joinSlash_cons f (List.cons_ne_nil g fs)] at hjoin
        simp at hjoin
    cases slack with
    | nil =>
      rw [List.append_nil] at hpieces
      refine ⟨[], ?_, hhead, Or.inl rfl⟩
      rw [List.append_nil, ← hpieces, htext]
    | cons s ss =>
      refine ⟨'/' :: joinSlash (s :: ss), ?_, hhead, Or.inr (Or.inl rfl)⟩
      rw [List.append_assoc, ← joinSlash_append hkept (List.cons_ne_nil s ss), ← hpieces, htext]

theorem Path.lead_trimmed {p : Path} (hne : p.text ≠ "") : p.trimmed.lead = p.lead := by
  obtain ⟨tail, htext, hhead, htail⟩ := p.exists_tail hne
  have happend := Path.lead_append hhead htail
  rw [← htext, String.ofList_toList, String.ofList_toList] at happend
  exact happend.symm

theorem Path.pieces_trimmed {p : Path} (hne : p.text ≠ "") :
    p.trimmed.pieces = if dropSlack p.pieces = [] then [[]] else dropSlack p.pieces := by
  obtain ⟨slack, hpieces, -⟩ := exists_dropSlack p.pieces
  rw [Path.pieces, p.lead_trimmed hne, p.text_trimmed, List.drop_left]
  split_ifs with hkept
  · rw [hkept]
    rfl
  · refine splitSlash_joinSlash hkept fun l hl => p.not_mem_of_mem_pieces ?_
    rw [hpieces]
    exact List.mem_append_left slack hl

theorem Path.text_trimmed_ne {p : Path} (hne : p.text ≠ "") : p.trimmed.text ≠ "" := by
  obtain ⟨-, -, hhead, -⟩ := p.exists_tail hne
  exact fun h => hhead (String.toList_eq_nil_iff.mpr h)

theorem Path.components_trimmed {p : Path} (hne : p.text ≠ "") :
    p.trimmed.components = p.components := by
  obtain ⟨slack, hpieces, hslack⟩ := exists_dropSlack p.pieces
  have hkept : p.trimmed.pieces.filterMap Component.ofPiece? =
      p.pieces.filterMap Component.ofPiece? :=
    calc p.trimmed.pieces.filterMap Component.ofPiece?
      _ = (dropSlack p.pieces).filterMap Component.ofPiece? := by
        rw [p.pieces_trimmed hne]
        split_ifs with hnil
        · rw [hnil]
          rfl
        · rfl
      _ = (dropSlack p.pieces ++ slack).filterMap Component.ofPiece? := by
        rw [List.filterMap_append, filterMap_slack hslack, List.append_nil]
      _ = p.pieces.filterMap Component.ofPiece? := by rw [← hpieces]
  rw [Path.components, Path.components, hkept, p.lead_trimmed hne]

/-! ## Joined paths -/

section Join

variable {dir : Path} {name : String}

/-- A joined path is the directory's and the name's text with one slash between them. -/
theorem Path.text_join (hne : dir.text ≠ "") (hname : isEntryName name) :
    (∃ s, dir.text.toList = s ++ ['/'] ∧ (dir.join name).text.toList = s ++ '/' :: name.toList) ∨
      (dir.join name).text.toList = dir.text.toList ++ '/' :: name.toList := by
  obtain ⟨-, -, -, hslash⟩ := (isEntryName_iff name).mp hname
  have hhead : name.toList.head? ≠ some '/' := fun h => hslash (List.mem_of_mem_head? h)
  rw [Path.join, if_neg hhead]
  by_cases hlast : dir.text.toList.getLast? = some '/'
  · left
    obtain ⟨s, hs⟩ := List.getLast?_eq_some_iff.mp hlast
    refine ⟨s, hs, ?_⟩
    simp [hs]
  · right
    simp [hlast, hne]

theorem Path.text_join_ne (hne : dir.text ≠ "") (hname : isEntryName name) :
    (dir.join name).text ≠ "" := by
  intro hnil
  have hlist := String.toList_eq_nil_iff.mpr hnil
  rcases Path.text_join hne hname with ⟨s, -, htext⟩ | htext
  · rw [htext] at hlist
    simp at hlist
  · rw [htext] at hlist
    simp at hlist

theorem Path.lead_join (hne : dir.text ≠ "") (hname : isEntryName name) :
    (dir.join name).lead = dir.lead := by
  have hlead : ∀ p : Path, p.lead = (Path.mk (String.ofList p.text.toList)).lead := fun p => by
    rw [String.ofList_toList]
  have hnil : dir.text.toList ≠ [] := fun h => hne (String.toList_eq_nil_iff.mp h)
  rw [hlead (dir.join name), hlead dir]
  rcases Path.text_join hne hname with ⟨s, hdir, htext⟩ | htext
  · rw [htext, hdir]
    cases s with
    | nil => exact Path.lead_append (List.cons_ne_nil '/' []) (Or.inr (Or.inr rfl))
    | cons c s =>
      rw [Path.lead_append (List.cons_ne_nil c s) (Or.inr (Or.inl rfl)),
        Path.lead_append (List.cons_ne_nil c s) (Or.inr (Or.inl rfl))]
  · rw [htext, Path.lead_append hnil (Or.inr (Or.inl rfl))]

/-- The name is one more piece, in place of the empty one behind a slash at the end. -/
theorem Path.pieces_join (hne : dir.text ≠ "") (hname : isEntryName name) :
    ∃ kept slack, dir.pieces = kept ++ slack ∧ (∀ s ∈ slack, s = []) ∧
      (dir.join name).pieces = kept ++ [name.toList] := by
  have hnil : dir.text.toList ≠ [] := fun h => hne (String.toList_eq_nil_iff.mp h)
  obtain ⟨-, -, -, hslash⟩ := (isEntryName_iff name).mp hname
  have hone := splitSlash_of_not_mem hslash
  obtain ⟨rest, hrest, -⟩ := dir.exists_lead
  have hpieces : dir.pieces = splitSlash rest := by rw [Path.pieces, hrest, List.drop_left]
  have hjoin : (dir.join name).pieces =
      splitSlash ((dir.join name).text.toList.drop dir.lead.length) := by
    rw [Path.pieces, Path.lead_join hne hname]
  rw [hjoin, hpieces]
  rcases Path.text_join hne hname with ⟨s, hdir, htext⟩ | htext
  · rw [htext]
    rw [hdir] at hrest
    rcases List.eq_nil_or_concat rest with rfl | ⟨rest, c, rfl⟩
    · -- The directory is the top and has no pieces of its own.
      refine ⟨[], [[]], rfl, by simp, ?_⟩
      rw [List.append_nil] at hrest
      rw [← hrest, List.append_cons s '/' name.toList, List.drop_left, hone, List.nil_append]
    · rw [List.concat_eq_append, ← List.append_assoc] at hrest
      obtain ⟨rfl, hc⟩ := List.append_inj' hrest rfl
      obtain rfl : '/' = c := by simpa using hc
      refine ⟨splitSlash rest, [[]], ?_, by simp, ?_⟩
      · rw [List.concat_eq_append, splitSlash_append]
        rfl
      · rw [List.append_assoc, List.drop_left, splitSlash_append, hone]
  · refine ⟨splitSlash rest, [], (List.append_nil _).symm, by simp, ?_⟩
    rw [htext, hrest, List.append_assoc, List.drop_left, splitSlash_append, hone]

theorem Path.components_join (hne : dir.text ≠ "") (hname : isEntryName name) :
    (dir.join name).components = dir.components ++ [.name name] := by
  obtain ⟨kept, slack, hdir, hslack, hjoin⟩ := Path.pieces_join hne hname
  have hnone := filterMap_slack fun s hs => (isSlack_iff s).mpr (Or.inl (hslack s hs))
  rw [Path.components, Path.components, Path.lead_join hne hname, hjoin, hdir,
    List.filterMap_append, List.filterMap_append, hnone, List.append_nil, List.append_assoc,
    List.filterMap_cons_some (ofPiece?_of_isEntryName hname), List.filterMap_nil]

theorem Path.fileName?_join (hne : dir.text ≠ "") (hname : isEntryName name) :
    (dir.join name).fileName? = some name := by
  rw [Path.fileName?, Path.components_join hne hname, List.getLast?_concat]

theorem Path.isGo_join (hne : dir.text ≠ "") (hname : isEntryName name) :
    (dir.join name).isGo ↔ extensionOf? name = some "go" := by
  rw [Path.isGo, Path.extension?, Path.fileName?_join hne hname, Option.bind_some, beq_iff_eq]

/-- The parent of a joined path is what was joined to. -/
theorem Path.parent?_join (hne : dir.text ≠ "") (hname : isEntryName name) :
    (dir.join name).parent? = some dir.trimmed := by
  obtain ⟨kept, slack, hdir, hslack, hjoin⟩ := Path.pieces_join hne hname
  have hslack' : ∀ s ∈ slack, isSlack s := fun s hs => (isSlack_iff s).mpr (Or.inl (hslack s hs))
  have hkept : dropSlack (dir.join name).pieces = kept ++ [name.toList] := by
    rw [hjoin, dropSlack_concat kept (isSlack_of_isEntryName hname)]
  unfold Path.parent?
  rw [hkept]
  split
  · rename_i hnil
    simp at hnil
  · rw [List.dropLast_concat, Path.lead_join hne hname, Path.trimmed, hdir,
      dropSlack_append kept hslack']

/-- A joined path has nothing to trim. -/
theorem Path.trimmed_join (hne : dir.text ≠ "") (hname : isEntryName name) :
    (dir.join name).trimmed = dir.join name := by
  obtain ⟨kept, slack, -, -, hjoin⟩ := Path.pieces_join hne hname
  have hkept : dropSlack (dir.join name).pieces = (dir.join name).pieces := by
    rw [hjoin, dropSlack_concat kept (isSlack_of_isEntryName hname)]
  rw [Path.trimmed, hkept, Path.lead_append_pieces, String.ofList_toList]

/-! ## Several names -/

theorem Path.joinAll_concat (dir : Path) (names : List String) (name : String) :
    dir.joinAll (names ++ [name]) = (dir.joinAll names).join name := by
  rw [Path.joinAll, List.foldl_append]
  rfl

variable {names : List String}

theorem Path.text_joinAll_ne (hne : dir.text ≠ "") (h : ∀ name ∈ names, isEntryName name) :
    (dir.joinAll names).text ≠ "" := by
  induction names using List.reverseRecOn with
  | nil => exact hne
  | append_singleton names name ih =>
    rw [Path.joinAll_concat]
    exact Path.text_join_ne (ih fun n hn => h n (List.mem_append_left _ hn)) (h name (by simp))

theorem Path.components_joinAll (hne : dir.text ≠ "") (h : ∀ name ∈ names, isEntryName name) :
    (dir.joinAll names).components = dir.components ++ names.map Component.name := by
  induction names using List.reverseRecOn with
  | nil => exact (List.append_nil _).symm
  | append_singleton names name ih =>
    have hnames : ∀ n ∈ names, isEntryName n := fun n hn => h n (List.mem_append_left _ hn)
    rw [Path.joinAll_concat,
      Path.components_join (Path.text_joinAll_ne hne hnames) (h name (by simp)), ih hnames,
      List.map_append, List.append_assoc]
    rfl

end Join

end GoStyle
