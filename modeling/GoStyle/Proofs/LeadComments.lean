import Mathlib.Data.List.Chain
import Mathlib.Data.List.Induction
import GoStyle.Go.Extract

/-!
# Lead comments

What a doc tracker keeps and what it attaches to items, said without a tracker. Items and marks cut
an outline into stretches of comments (`Event.stretches`), and the comments of a stretch are cut
into groups (`Grouping`): a comment joins the group before it unless it begins more than a row below
it, or, if that group is a remark on what precedes the stretch, on any row but its last
(`Joins`). These conditions leave no choice (`Grouping.unique`). After any events a tracker has the
groups of all stretches, and the comment on an item that comes next is the last group of the last
stretch, if that is no remark and ends on the row above (`DocTracker.track_spec`).
-/

namespace GoStyle

/-! ## Groups -/

section Groups

variable {row : Option ℕ} {cs g : List Token} {gs : List (List Token)} {c : Token}

/-- Whether a group of comments is a remark: it begins on the row of what precedes it. -/
def isRemark (row : Option ℕ) (g : List Token) : Bool :=
  g.head?.any fun c => row == some c.start.row

/-- Whether a comment joins the comments of a group that come before it. -/
def Joins (row : Option ℕ) (g : List Token) (c : Token) : Prop :=
  ∃ last, g.getLast? = some last ∧
    if isRemark row g then c.start.row = last.stop.row else c.start.row ≤ last.stop.row + 1

/-- Whether every comment of a group joins those before it. -/
def IsRun (row : Option ℕ) (g : List Token) : Prop :=
  ∀ before c after, g = before ++ c :: after → before ≠ [] → Joins row before c

/-- Whether a group does not go on in the next one. -/
def Apart (row : Option ℕ) (g h : List Token) : Prop :=
  ∀ c, h.head? = some c → ¬Joins row g c

/-- `gs` are the groups of the comments `cs`, of which what precedes them ends on the given row. -/
structure Grouping (row : Option ℕ) (cs : List Token) (gs : List (List Token)) : Prop where
  flatten : gs.flatten = cs
  ne_nil : ∀ g ∈ gs, g ≠ []
  isRun : ∀ g ∈ gs, IsRun row g
  apart : gs.IsChain (Apart row)

theorem Joins.ne_nil (h : Joins row g c) : g ≠ [] := by
  rintro rfl
  obtain ⟨last, hlast, -⟩ := h
  cases hlast

theorem isRun_singleton (row : Option ℕ) (c : Token) : IsRun row [c] := by
  intro before d after hg hne
  have hlen := congrArg List.length hg
  have := List.length_pos_of_ne_nil hne
  simp at hlen
  omega

/-- The last comment of a group is one more that joins those before it. -/
theorem isRun_concat (hne : g ≠ []) : IsRun row (g ++ [c]) ↔ IsRun row g ∧ Joins row g c := by
  constructor
  · intro h
    refine ⟨fun before d after hg hbefore => ?_, h g c [] rfl hne⟩
    exact h before d (after ++ [c]) (by rw [hg, List.append_assoc, List.cons_append]) hbefore
  · rintro ⟨hrun, hlast⟩ before d after hg hbefore
    rcases List.eq_nil_or_concat' after with rfl | ⟨after, e, rfl⟩
    · obtain ⟨rfl, hcd⟩ := List.append_inj' hg rfl
      obtain rfl := List.singleton_inj.mp hcd
      exact hlast
    · rw [← List.cons_append, ← List.append_assoc] at hg
      obtain ⟨hg, -⟩ := List.append_inj' hg rfl
      exact hrun before d after hg hbefore

/-- How a last group goes on is nothing to the groups before it. -/
theorem isChain_apart_concat (hne : g ≠ []) :
    (gs ++ [g ++ [c]]).IsChain (Apart row) ↔ (gs ++ [g]).IsChain (Apart row) := by
  have hhead : (g ++ [c]).head? = g.head? := List.head?_append_of_ne_nil g hne
  simp only [List.isChain_append, List.isChain_singleton, List.head?_cons, Option.mem_some_iff,
    forall_eq', Apart, hhead]

theorem Grouping.nil (row : Option ℕ) : Grouping row [] [] :=
  ⟨rfl, by simp, by simp, List.isChain_nil⟩

/-- One more comment, which joins the last group. -/
theorem Grouping.join (h : Grouping row cs (gs ++ [g])) (hjoins : Joins row g c) :
    Grouping row (cs ++ [c]) (gs ++ [g ++ [c]]) := by
  have hg : g ≠ [] := h.ne_nil g (by simp)
  have hmem : ∀ g' ∈ gs ++ [g ++ [c]], g' ∈ gs ++ [g] ∨ g' = g ++ [c] := by
    intro g' hg'
    rcases List.mem_append.mp hg' with hg' | hg'
    · exact Or.inl (List.mem_append_left _ hg')
    · exact Or.inr (List.mem_singleton.mp hg')
  refine ⟨?_, fun g' hg' => ?_, fun g' hg' => ?_, (isChain_apart_concat hg).mpr h.apart⟩
  · rw [← h.flatten]
    simp
  · rcases hmem g' hg' with hg' | rfl
    · exact h.ne_nil g' hg'
    · simp
  · rcases hmem g' hg' with hg' | rfl
    · exact h.isRun g' hg'
    · exact (isRun_concat hg).mpr ⟨h.isRun g (by simp), hjoins⟩

/-- One more comment, which joins no group. -/
theorem Grouping.start (h : Grouping row cs gs)
    (hapart : ∀ g, gs.getLast? = some g → ¬Joins row g c) :
    Grouping row (cs ++ [c]) (gs ++ [[c]]) where
  flatten := by rw [List.flatten_append, h.flatten]; rfl
  ne_nil := by
    intro g hg
    rcases List.mem_append.mp hg with hg | hg
    · exact h.ne_nil g hg
    · simp [List.mem_singleton.mp hg]
  isRun := by
    intro g hg
    rcases List.mem_append.mp hg with hg | hg
    · exact h.isRun g hg
    · rw [List.mem_singleton.mp hg]
      exact isRun_singleton row c
  apart := by
    refine List.isChain_append.mpr ⟨h.apart, List.isChain_singleton _, fun g hg h' hh' => ?_⟩
    obtain rfl : [c] = h' := by simpa using hh'
    intro d hd
    obtain rfl : c = d := by simpa using hd
    exact hapart g hg

/-- The last of some comments has joined the last group or none. -/
theorem Grouping.concat_cases (h : Grouping row (cs ++ [c]) gs) :
    (∃ gs' g, gs = gs' ++ [g ++ [c]] ∧ Grouping row cs (gs' ++ [g]) ∧ Joins row g c) ∨
    ∃ gs', gs = gs' ++ [[c]] ∧ Grouping row cs gs' ∧
      ∀ g, gs'.getLast? = some g → ¬Joins row g c := by
  rcases List.eq_nil_or_concat' gs with rfl | ⟨gs', last, rfl⟩
  · simpa using h.flatten
  rcases List.eq_nil_or_concat' last with rfl | ⟨g, d, rfl⟩
  · exact absurd rfl (h.ne_nil [] (by simp))
  have hflatten : gs'.flatten ++ g ++ [d] = cs ++ [c] := by
    rw [← h.flatten]
    simp
  obtain ⟨hcs, hd⟩ := List.append_inj' hflatten rfl
  obtain rfl := List.singleton_inj.mp hd
  have hne : ∀ g' ∈ gs', g' ≠ [] := fun g' hg' => h.ne_nil g' (List.mem_append_left _ hg')
  have hrun : ∀ g' ∈ gs', IsRun row g' := fun g' hg' => h.isRun g' (List.mem_append_left _ hg')
  by_cases hg : g = []
  · subst hg
    obtain ⟨hchain, -, hlast⟩ := List.isChain_append.mp h.apart
    refine Or.inr ⟨gs', rfl, ⟨by simpa using hcs, hne, hrun, hchain⟩, fun g' hg' => ?_⟩
    exact hlast g' hg' _ rfl d rfl
  · obtain ⟨hrunlast, hjoins⟩ := (isRun_concat hg).mp (h.isRun (g ++ [d]) (by simp))
    refine Or.inl ⟨gs', g, rfl, ⟨by simpa using hcs, fun g' hg' => ?_, fun g' hg' => ?_,
      (isChain_apart_concat hg).mp h.apart⟩, hjoins⟩
    · rcases List.mem_append.mp hg' with hg' | hg'
      · exact hne g' hg'
      · rwa [List.mem_singleton.mp hg']
    · rcases List.mem_append.mp hg' with hg' | hg'
      · exact hrun g' hg'
      · rwa [List.mem_singleton.mp hg']

/-- Comments have one grouping only. -/
theorem Grouping.unique : ∀ {cs : List Token} {gs gs' : List (List Token)},
    Grouping row cs gs → Grouping row cs gs' → gs = gs' := by
  intro cs
  induction cs using List.reverseRecOn with
  | nil =>
    have hnil : ∀ gs, Grouping row [] gs → gs = [] := by
      intro gs h
      by_contra hne
      obtain ⟨g, hg⟩ := List.exists_mem_of_ne_nil gs hne
      exact h.ne_nil g hg (List.flatten_eq_nil_iff.mp h.flatten g hg)
    intro gs gs' h h'
    rw [hnil gs h, hnil gs' h']
  | append_singleton cs c ih =>
    intro gs gs' h h'
    rcases h.concat_cases with ⟨ps, g, rfl, hcut, hjoins⟩ | ⟨ps, rfl, hcut, hapart⟩ <;>
      rcases h'.concat_cases with ⟨ps', g', rfl, hcut', hjoins'⟩ | ⟨ps', rfl, hcut', hapart'⟩
    · obtain ⟨rfl, hg⟩ := List.append_inj' (ih hcut hcut') rfl
      rw [List.singleton_inj.mp hg]
    · exact absurd hjoins (hapart' g (by rw [← ih hcut hcut']; simp))
    · exact absurd hjoins' (hapart g' (by rw [ih hcut hcut']; simp))
    · rw [ih hcut hcut']

end Groups

/-- The group among those of a stretch that is the comment on an item on the given row. -/
def leadGroup? (row : Option ℕ) (gs : List (List Token)) (first : ℕ) : Option (List Token) :=
  gs.getLast?.filter fun g =>
    !isRemark row g && g.getLast?.any fun last => last.stop.row + 1 == first

/-! ## Stretches -/

/-- Comments with no item or mark between them, and the row on which what precedes them ends. -/
structure Stretch where
  row : Option ℕ
  comments : List Token

/-- No comments at the beginning of an outline. -/
def Stretch.start : Stretch :=
  ⟨none, []⟩

/-- `gs` are the groups of a stretch. -/
def Stretch.Groups (s : Stretch) (gs : List (List Token)) : Prop :=
  Grouping s.row s.comments gs

section Outlines

variable {Item : Type}

/-- The stretches of an outline, the first of which goes on from `s`. -/
def Event.stretches (s : Stretch) : List (Event Item) → List Stretch
  | [] => [s]
  | .comment t :: es => stretches ⟨s.row, s.comments ++ [t]⟩ es
  | .mark row :: es => s :: stretches ⟨some row, []⟩ es
  | .code _ _ last :: es => s :: stretches ⟨some last, []⟩ es

/-- The comments of an outline. -/
def Event.comments : List (Event Item) → List Token
  | [] => []
  | .comment t :: es => t :: comments es
  | .mark _ :: es => comments es
  | .code _ _ _ :: es => comments es

/-- The items of an outline. -/
def Event.items : List (Event Item) → List Item
  | [] => []
  | .comment _ :: es => items es
  | .mark _ :: es => items es
  | .code item _ _ :: es => item :: items es

theorem Event.comments_append : ∀ es es' : List (Event Item),
    comments (es ++ es') = comments es ++ comments es'
  | [], _ => rfl
  | .comment t :: es, es' => congrArg (t :: ·) (comments_append es es')
  | .mark _ :: es, es' => comments_append es es'
  | .code _ _ _ :: es, es' => comments_append es es'

/-- The stretches hold all comments in order. -/
theorem flatMap_comments_stretches : ∀ (es : List (Event Item)) (s : Stretch),
    (Event.stretches s es).flatMap Stretch.comments = s.comments ++ Event.comments es
  | [], s => by simp [Event.stretches, Event.comments]
  | .comment t :: es, s => by
    rw [Event.stretches, flatMap_comments_stretches es, Event.comments]
    simp
  | .mark row :: es, s => by
    rw [Event.stretches, List.flatMap_cons, flatMap_comments_stretches es, Event.comments]
    rfl
  | .code _ _ last :: es, s => by
    rw [Event.stretches, List.flatMap_cons, flatMap_comments_stretches es, Event.comments]
    rfl

/-- The groups of all stretches hold all comments of the stretches in order. -/
theorem flatten_of_groups {ss : List Stretch} {gss : List (List (List Token))}
    (h : List.Forall₂ Stretch.Groups ss gss) :
    gss.flatten.flatten = ss.flatMap Stretch.comments := by
  induction h with
  | nil => rfl
  | cons hgs _ ih => rw [List.flatten_cons, List.flatten_append, hgs.flatten, ih, List.flatMap_cons]

theorem ne_nil_of_groups {ss : List Stretch} {gss : List (List (List Token))}
    (h : List.Forall₂ Stretch.Groups ss gss) : ∀ g ∈ gss.flatten, g ≠ [] := by
  induction h with
  | nil => simp
  | cons hgs _ ih =>
    intro g hg
    rcases List.mem_append.mp hg with hg | hg
    · exact hgs.ne_nil g hg
    · exact ih g hg

/-! ## The tracker -/

/-- See an event. -/
def DocTracker.see (d : DocTracker) : Event Item → DocTracker
  | .comment t => d.comment t
  | .mark row => d.finish row
  | .code _ _ last => d.finish last

/-- What is known after some events. -/
def DocTracker.track (es : List (Event Item)) : DocTracker :=
  es.foldl DocTracker.see DocTracker.empty

/-- A tracker in a stretch of which `gs` are the groups, after the groups `earlier`. -/
structure DocTracker.Tracks (d : DocTracker) (s : Stretch) (earlier gs : List (List Token)) :
    Prop where
  lastRow : d.lastRow = s.row
  groups : d.groups = earlier ++ gs
  cut : s.Groups gs
  pending : d.pending = gs.getLast?.getD []
  trailing : d.trailing = isRemark s.row d.pending

namespace DocTracker.Tracks

variable {d : DocTracker} {s : Stretch} {earlier gs : List (List Token)}

theorem empty : DocTracker.empty.Tracks Stretch.start [] [] :=
  ⟨rfl, rfl, Grouping.nil none, rfl, rfl⟩

/-- An item or a mark ends the stretch. -/
theorem finish (h : d.Tracks s earlier gs) (row : ℕ) :
    (d.finish row).Tracks ⟨some row, []⟩ (earlier ++ gs) [] where
  lastRow := rfl
  groups := by rw [List.append_nil, ← h.groups]; rfl
  cut := Grouping.nil (some row)
  pending := rfl
  trailing := rfl

/-- The comments of the last group are kept. -/
theorem pending_eq_of_getLast? (h : d.Tracks s earlier gs) {g : List Token}
    (hg : gs.getLast? = some g) : d.pending = g := by
  rw [h.pending, hg, Option.getD_some]

theorem joins_iff (h : d.Tracks s earlier gs) (t : Token) :
    d.joins t.start.row ↔ Joins s.row d.pending t := by
  unfold DocTracker.joins Joins
  rw [h.trailing]
  cases d.pending.getLast? with
  | none => simp
  | some last => cases isRemark s.row d.pending <;> simp

/-- A comment joins the last group or begins one. -/
theorem comment (h : d.Tracks s earlier gs) (t : Token) :
    ∃ gs', (d.comment t).Tracks ⟨s.row, s.comments ++ [t]⟩ earlier gs' := by
  unfold DocTracker.comment
  by_cases hjoins : d.joins t.start.row
  · rw [if_pos hjoins]
    rw [h.joins_iff] at hjoins
    have hne := hjoins.ne_nil
    rcases List.eq_nil_or_concat' gs with rfl | ⟨gs', g, rfl⟩
    · exact absurd h.pending hne
    · have hpending : d.pending = g := h.pending_eq_of_getLast? (by simp)
      rw [hpending] at hjoins hne
      have hdone : d.done ++ [g] = earlier ++ gs' ++ [g] := by
        rw [List.append_assoc, ← h.groups, DocTracker.groups, hpending]
        simp [hne]
      obtain ⟨hdone, -⟩ := List.append_inj' hdone rfl
      refine ⟨gs' ++ [g ++ [t]], h.lastRow, ?_, h.cut.join hjoins, ?_, ?_⟩
      · simp [DocTracker.groups, hpending, hdone]
      · simp [hpending]
      · rw [h.trailing, hpending, isRemark, isRemark, List.head?_append_of_ne_nil g hne]
  · rw [if_neg hjoins]
    rw [h.joins_iff] at hjoins
    refine ⟨gs ++ [[t]], h.lastRow, ?_, h.cut.start fun g hg => ?_, ?_, ?_⟩
    · change d.groups ++ [[t]] = _
      rw [h.groups, List.append_assoc]
    · rwa [← h.pending_eq_of_getLast? hg]
    · simp
    · simp [isRemark, h.lastRow]

/-- The comment on an item that comes next is the last group, if that speaks about it. -/
theorem doc?_eq (h : d.Tracks s earlier gs) (first : ℕ) :
    d.doc? first = leadGroup? s.row gs first := by
  unfold DocTracker.doc? leadGroup?
  rcases List.eq_nil_or_concat' gs with rfl | ⟨gs', g, rfl⟩
  · rw [h.pending]
    rfl
  · have hlast : (gs' ++ [g]).getLast? = some g := by simp
    have hne : g ≠ [] := h.cut.ne_nil g (by simp)
    rw [h.trailing, h.pending_eq_of_getLast? hlast, hlast]
    simp [Option.filter, List.getLast?_eq_some_getLast hne]

/-- What a tracker has after some events: the groups of all stretches. -/
theorem run : ∀ (es : List (Event Item)) {d : DocTracker} {s : Stretch}
    {earlier gs : List (List Token)}, d.Tracks s earlier gs → ∃ s' gss gs',
      (Event.stretches s es).getLast? = some s' ∧
      List.Forall₂ Stretch.Groups (Event.stretches s es) (gss ++ [gs']) ∧
      (es.foldl DocTracker.see d).Tracks s' (earlier ++ gss.flatten) gs'
  | [], d, s, earlier, gs, h => by
    refine ⟨s, [], gs, rfl, List.Forall₂.cons h.cut List.Forall₂.nil, ?_⟩
    simpa using h
  | .comment t :: es, d, s, earlier, gs, h => by
    obtain ⟨gs', h'⟩ := h.comment t
    exact run es h'
  | .mark row :: es, d, s, earlier, gs, h => by
    obtain ⟨s', gss, gs', hlast, hcut, htracks⟩ := run es (h.finish row)
    refine ⟨s', gs :: gss, gs', ?_, List.Forall₂.cons h.cut hcut, ?_⟩
    · rw [Event.stretches, List.getLast?_cons, hlast, Option.getD_some]
    · rw [List.flatten_cons, ← List.append_assoc]
      exact htracks
  | .code _ _ last :: es, d, s, earlier, gs, h => by
    obtain ⟨s', gss, gs', hlast, hcut, htracks⟩ := run es (h.finish last)
    refine ⟨s', gs :: gss, gs', ?_, List.Forall₂.cons h.cut hcut, ?_⟩
    · rw [Event.stretches, List.getLast?_cons, hlast, Option.getD_some]
    · rw [List.flatten_cons, ← List.append_assoc]
      exact htracks

end DocTracker.Tracks

/-- `gss` are the groups of the stretches of an outline but for the last one, `s`, and `gs` those of
that one. -/
structure Event.LeadGroups (es : List (Event Item)) (s : Stretch) (gss : List (List (List Token)))
    (gs : List (List Token)) : Prop where
  last : (Event.stretches Stretch.start es).getLast? = some s
  groups : List.Forall₂ Stretch.Groups (Event.stretches Stretch.start es) (gss ++ [gs])

namespace Event.LeadGroups

variable {es : List (Event Item)} {s : Stretch} {gss : List (List (List Token))}
  {gs : List (List Token)}

/-- The groups of all stretches hold all comments in order. -/
theorem flatten (h : LeadGroups es s gss gs) :
    (gss ++ [gs]).flatten.flatten = Event.comments es := by
  rw [flatten_of_groups h.groups, flatMap_comments_stretches]
  rfl

theorem ne_nil (h : LeadGroups es s gss gs) : ∀ g ∈ (gss ++ [gs]).flatten, g ≠ [] :=
  ne_nil_of_groups h.groups

/-- The stretches of an outline have no other groups. -/
theorem unique (h : LeadGroups es s gss gs) {gss' : List (List (List Token))}
    (h' : List.Forall₂ Stretch.Groups (Event.stretches Stretch.start es) gss') :
    gss' = gss ++ [gs] := by
  have hunique : Relator.RightUnique Stretch.Groups := fun _ _ _ hgs hgs' => hgs.unique hgs'
  exact hunique.forall₂ h' h.groups

end Event.LeadGroups

/-- What a tracker has after some events: the groups of all stretches of comments, and as the
comment on an item that comes next the last group of the last stretch, if that speaks about it. -/
theorem DocTracker.track_spec (es : List (Event Item)) : ∃ s gss gs,
    Event.LeadGroups es s gss gs ∧ (track es).groups = (gss ++ [gs]).flatten ∧
    ∀ first, (track es).doc? first = leadGroup? s.row gs first := by
  obtain ⟨s, gss, gs, hlast, hcut, htracks⟩ := Tracks.run es Tracks.empty
  refine ⟨s, gss, gs, ⟨hlast, hcut⟩, ?_, htracks.doc?_eq⟩
  rw [track, htracks.groups]
  simp

/-- What is attached to items depends on the events before them. -/
theorem commented_append : ∀ (es es' : List (Event Item)) (d : DocTracker),
    Event.commented d (es ++ es') =
      Event.commented d es ++ Event.commented (es.foldl DocTracker.see d) es'
  | [], _, _ => rfl
  | .comment t :: es, es', d => commented_append es es' (d.comment t)
  | .mark row :: es, es', d => commented_append es es' (d.finish row)
  | .code _ _ last :: es, es', d => congrArg (_ :: ·) (commented_append es es' (d.finish last))

/-- No item is lost or added. -/
theorem map_item_commented : ∀ (es : List (Event Item)) (d : DocTracker),
    (Event.commented d es).map Commented.item = Event.items es
  | [], _ => rfl
  | .comment t :: es, d => map_item_commented es (d.comment t)
  | .mark row :: es, d => map_item_commented es (d.finish row)
  | .code item _ last :: es, d => congrArg (item :: ·) (map_item_commented es (d.finish last))

/-- An item has the comments that a tracker attaches to it after the events before it. -/
theorem exists_append_of_mem_commented {c : Commented Item} : ∀ {es : List (Event Item)}
    {d : DocTracker}, c ∈ Event.commented d es → ∃ before first last after,
      es = before ++ .code c.item first last :: after ∧
      c.doc = (before.foldl DocTracker.see d).doc? first ∧
      c.before = (before.foldl DocTracker.see d).groups
  | .comment t :: es, d, h => by
    obtain ⟨before, first, last, after, rfl, hdoc⟩ :=
      exists_append_of_mem_commented (d := d.comment t) h
    exact ⟨.comment t :: before, first, last, after, rfl, hdoc⟩
  | .mark row :: es, d, h => by
    obtain ⟨before, first, last, after, rfl, hdoc⟩ :=
      exists_append_of_mem_commented (d := d.finish row) h
    exact ⟨.mark row :: before, first, last, after, rfl, hdoc⟩
  | .code item first last :: es, d, h => by
    rcases List.mem_cons.mp h with rfl | h
    · exact ⟨[], first, last, es, rfl, rfl, rfl⟩
    · obtain ⟨before, first', last', after, rfl, hdoc⟩ := exists_append_of_mem_commented h
      exact ⟨.code item first last :: before, first', last', after, rfl, hdoc⟩

end Outlines

/-! ## Files -/

/-- The package clause that an item with its comments is. -/
def Commented.package? (c : Commented Item) : Option (Pos × Ident × Commented Item) :=
  match c.item with
  | .package pos name => some (pos, name, c)
  | _ => none

/-- A file has the comments that the last package clause has. -/
theorem ofItems?_append (path : Path) (content : String) (cs cs' : List (Commented Item))
    (c : Commented Item) {pos : Pos} {name : Ident} (hc : c.item = .package pos name)
    (hrest : ∀ c' ∈ cs', c'.package? = none) :
    ∃ file, SourceFile.ofItems? path content (cs ++ c :: cs') = some file ∧
      file.package = name ∧ file.packagePos = pos ∧ file.packageDoc = c.doc.map groupOf ∧
      file.leadingComments = c.before.map groupOf := by
  have hfind : (cs ++ c :: cs').reverse.findSome? Commented.package? = some (pos, name, c) := by
    have hnone : cs'.reverse.findSome? Commented.package? = none := by
      simpa [List.findSome?_eq_none_iff] using hrest
    simp [List.findSome?_append, hnone, Commented.package?, hc]
  exact ⟨_, congrArg (Option.map _) hfind, rfl, rfl, rfl, rfl⟩

/-- How comments are attached. After any events of an outline the tracker has the groups of all
stretches of comments, and these are all comments in order; to the item that comes next it attaches
the last group of the last stretch, if that is no remark and ends on the row above, and keeps with
it all groups before. So a file has as leading comments the groups before its package clause, the
last one if there are several. -/
theorem Event.lead_comments :
    (∀ (Item : Type) (before : List (Event Item)), ∃ s gss gs,
      Event.LeadGroups before s gss gs ∧
      (∀ gss', List.Forall₂ Stretch.Groups (Event.stretches Stretch.start before) gss' →
        gss' = gss ++ [gs]) ∧
      (DocTracker.track before).groups = (gss ++ [gs]).flatten ∧
      (DocTracker.track before).groups.flatten = Event.comments before ∧
      (∀ g ∈ (DocTracker.track before).groups, g ≠ []) ∧
      ∀ item first last after,
        Event.commented DocTracker.empty (before ++ .code item first last :: after) =
          Event.commented DocTracker.empty before ++
            ⟨item, leadGroup? s.row gs first, (gss ++ [gs]).flatten⟩ ::
              Event.commented (DocTracker.track (before ++ [.code item first last])) after) ∧
    ∀ path content before pos name first last after,
      (∀ pos' name' first' last', Event.code (.package pos' name') first' last' ∉ after) →
      ∃ s gss gs file, Event.LeadGroups before s gss gs ∧
        SourceFile.ofItems? path content (Event.commented DocTracker.empty
          (before ++ .code (.package pos name) first last :: after)) = some file ∧
        file.package = name ∧ file.packagePos = pos ∧
        file.packageDoc = (leadGroup? s.row gs first).map groupOf ∧
        file.leadingComments = (gss ++ [gs]).flatten.map groupOf := by
  have hitem : ∀ (Item : Type) (before : List (Event Item)) item first last after,
      Event.commented DocTracker.empty (before ++ .code item first last :: after) =
        Event.commented DocTracker.empty before ++
          ⟨item, (DocTracker.track before).doc? first, (DocTracker.track before).groups⟩ ::
            Event.commented ((DocTracker.track before).finish last) after :=
    fun Item before item first last after => commented_append before _ DocTracker.empty
  constructor
  · intro Item before
    obtain ⟨s, gss, gs, hlead, hgroups, hdoc⟩ := DocTracker.track_spec before
    refine ⟨s, gss, gs, hlead, fun gss' => hlead.unique, hgroups, ?_, ?_,
      fun item first last after => ?_⟩
    · rw [hgroups, hlead.flatten]
    · rw [hgroups]
      exact hlead.ne_nil
    · rw [hitem, hgroups, hdoc, DocTracker.track, DocTracker.track, List.foldl_append]
      rfl
  · intro path content before pos name first last after hafter
    obtain ⟨s, gss, gs, hlead, hgroups, hdoc⟩ := DocTracker.track_spec before
    have hrest : ∀ c ∈ Event.commented ((DocTracker.track before).finish last) after,
        c.package? = none := by
      intro c hc
      obtain ⟨before', first', last', after', rfl, -⟩ := exists_append_of_mem_commented hc
      unfold Commented.package?
      split
      · rename_i pos' name' hpackage
        rw [hpackage] at hafter
        exact absurd (by simp) (hafter pos' name' first' last')
      · rfl
    rw [hitem, hgroups, hdoc]
    obtain ⟨file, hfile, hname, hpos, hpackageDoc, hleading⟩ := ofItems?_append path content
      (Event.commented DocTracker.empty before) _
      ⟨.package pos name, leadGroup? s.row gs first, (gss ++ [gs]).flatten⟩ rfl hrest
    exact ⟨s, gss, gs, file, hlead, hfile, hname, hpos, hpackageDoc, hleading⟩

/-- A comment on the first row of a text. -/
def firstComment : Token :=
  ⟨.comment, "// A.".toList, ⟨0, 0, 0⟩, ⟨0, 5, 5⟩⟩

/-- A package clause below a comment, with a statement after it. -/
theorem lead_comments_firstComment :
    (∀ pos name first last, Event.code (.package pos name) first last ∉
      [Event.mark 1, Event.code Item.other 2 2]) ∧
    ∃ file, SourceFile.ofItems? ⟨"a.go"⟩ "" (Event.commented DocTracker.empty
        ([.comment firstComment] ++ .code (.package ⟨2, 1, 6⟩ ⟨"a", ⟨2, 9, 14⟩⟩) 1 1 ::
          [.mark 1, .code .other 2 2])) = some file ∧
      file.packageDoc = some (groupOf [firstComment]) ∧
      file.leadingComments = [groupOf [firstComment]] := by
  have hafter : ∀ pos name first last, Event.code (.package pos name) first last ∉
      [Event.mark 1, Event.code Item.other 2 2] := by simp
  obtain ⟨s, gss, gs, file, -, hfile, -⟩ := Event.lead_comments.2 ⟨"a.go"⟩ ""
    [.comment firstComment] ⟨2, 1, 6⟩ ⟨"a", ⟨2, 9, 14⟩⟩ 1 1 _ hafter
  refine ⟨hafter, file, hfile, ?_⟩
  cases hfile
  exact ⟨rfl, rfl⟩

end GoStyle
