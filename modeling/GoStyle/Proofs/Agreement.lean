import GoStyle.Proofs.Readings
import GoStyle.Proofs.TokenPlaces

/-!
# What a file says about its text

A file that is read from a text keeps points of it in three ways: as offsets, as lines and columns,
and as numbers of lines to look up. They agree (`SourceFile.Agrees`): every identifier is spelled
where it says, and is found at its column in its line; keywords and declared names come in the order
in which the file lists them; groups of comments quote comments of the text, and the comment on a
declaration ends on the line above it. All of it goes back to the tokens that the file is read from,
which stand where they say.
-/

namespace GoStyle

/-! ## Identifiers -/

/-- Whether an identifier is spelled in a text where it says. -/
def Ident.StandsIn (i : Ident) (s : List Char) : Prop :=
  ∃ before after, s = before ++ i.name.toList ++ after ∧ i.pos = Pos.behind before

/-- Whether an identifier is found at its column in its line. -/
def Ident.OnLine (i : Ident) (line : ℕ → String) : Prop :=
  ∃ left right, line i.pos.line = left ++ i.name ++ right ∧
    left.utf8ByteSize + 1 = i.pos.column

section Idents

variable {s : List Char} {ts : List Token} {is : List Ident} {i : Ident}

theorem isPlain_of_mem_keywords {text : List Char} (h : text ∈ keywords) : IsPlain text := by
  have hkeywords : ∀ text ∈ keywords, text ≠ [] ∧ '\n' ∉ text ∧ '\r' ∉ text := by decide
  obtain ⟨hne, hfeed, hreturn⟩ := hkeywords text h
  exact ⟨hne, hfeed, hreturn⟩

theorem Token.IsWord.isPlain (hts : tokens? s = some ts) {t : Token} (ht : t ∈ ts)
    (h : t.IsWord) : IsPlain t.text :=
  h.elim (isPlain_of_kind_word hts ht) isPlain_of_mem_keywords

theorem Occur.exists_token (h : Occur is ts) (hi : i ∈ is) :
    ∃ t ∈ ts, t.IsWord ∧ t.ident = i := by
  obtain ⟨ws, hws, hword, rfl⟩ := h
  obtain ⟨t, ht, rfl⟩ := List.mem_map.mp hi
  exact ⟨t, hws.subset ht, hword t ht, rfl⟩

/-- The name that a token is stands where the token does. -/
theorem standsIn_ident (hts : tokens? s = some ts) {t : Token} (ht : t ∈ ts) :
    t.ident.StandsIn s := by
  obtain ⟨before, after, hs, hstart, -⟩ := standsIn_of_mem_tokens? hts ht
  refine ⟨before, after, ?_, ?_⟩
  · rw [Token.ident, String.toList_ofList, hs]
  · rw [Token.ident, hstart, pos_after]

theorem onLine_ident {content : String} (hts : tokens? content.toList = some ts) {t : Token}
    (ht : t ∈ ts) (hword : t.IsWord) : t.ident.OnLine (lineAt content) := by
  obtain ⟨before, after, hs, hstart, -⟩ := standsIn_of_mem_tokens? hts ht
  obtain ⟨right, hline⟩ := exists_line_of_append before after (hword.isPlain hts ht)
  have hpos : t.ident.pos = Pos.behind before := by rw [Token.ident, hstart, pos_after]
  refine ⟨String.ofList (lastLine before), String.ofList right, ?_, ?_⟩
  · rw [hpos, Pos.behind, lineAt, linesOf, hs, List.getElem?_map, hline, Option.map_some,
      Option.getD_some, String.ofList_append, String.ofList_append]
    rfl
  · rw [hpos, Pos.behind]

/-- Identifiers that occur in order have increasing offsets. -/
theorem Occur.pairwise (hts : tokens? s = some ts) (h : Occur is ts) :
    is.Pairwise fun i j => i.pos.offset < j.pos.offset := by
  obtain ⟨ws, hws, -, rfl⟩ := h
  exact List.pairwise_map.mpr ((pairwise_offset_tokens? hts).sublist hws)

end Idents

/-! ## Groups of comments -/

/-- Whether a group of comments quotes the given comments of a text. -/
structure CommentGroup.Quotes (g : CommentGroup) (content : String) (comments : List Token) :
    Prop where
  ne_nil : comments ≠ []
  sublist : ∃ ts, tokens? content.toList = some ts ∧ comments.Sublist ts
  standsIn : ∀ t ∈ comments, t.kind = .comment ∧ t.StandsIn content.toList
  pos : ∀ t, comments.head? = some t → g.pos = t.start.pos
  endLine : ∀ t, comments.getLast? = some t → g.endLine = t.stop.pos.line
  lines : g.lines = comments.flatMap fun t => linesOf (String.ofList t.text)
  text : g.text = commentText ("\n".intercalate g.lines)

/-- Whether some comments are one or more of those among the tokens, in order. -/
structure IsComments (ts comments : List Token) : Prop where
  ne_nil : comments ≠ []
  sublist : comments.Sublist ts
  kind : ∀ t ∈ comments, t.kind = .comment

/-- Whether a comment on what begins at a point consists of comments among the tokens and ends on
the line above. -/
def IsDoc (ts : List Token) (pos : Pos) (doc : Option CommentGroup) : Prop :=
  ∀ g, doc = some g → ∃ comments, IsComments ts comments ∧ g = groupOf comments ∧
    g.endLine + 1 = pos.line

section Comments

variable {ts us comments : List Token}

theorem groupOf_eq {last : Token} (h : comments.getLast? = some last) :
    groupOf comments = { CommentGroup.ofRaw ((comments.head?.map (·.start.pos)).getD Pos.start)
      (comments.map fun t => String.ofList t.text) with endLine := last.stop.pos.line } := by
  rw [groupOf, h]
  rfl

theorem quotes_groupOf {content : String} (hts : tokens? content.toList = some ts)
    (h : IsComments ts comments) : (groupOf comments).Quotes content comments := by
  have hlast := List.getLast?_eq_some_getLast h.ne_nil
  rw [groupOf_eq hlast]
  refine ⟨h.ne_nil, ⟨ts, hts, h.sublist⟩, fun t ht => ?_, fun t ht => ?_, fun t ht => ?_, ?_, ?_⟩
  · exact ⟨h.kind t ht, standsIn_of_mem_tokens? hts (h.sublist.subset ht)⟩
  · rw [ht]
    rfl
  · rw [Option.some_inj.mp (hlast.symm.trans ht)]
  · rw [CommentGroup.ofRaw, List.flatMap_map, List.map_flatMap]
    rfl
  · exact (commentText_intercalate _).symm

theorem IsComments.mono (h : IsComments ts comments) (hsub : ts.Sublist us) :
    IsComments us comments :=
  ⟨h.ne_nil, h.sublist.trans hsub, h.kind⟩

theorem IsDoc.mono {pos : Pos} {doc : Option CommentGroup} (h : IsDoc ts pos doc)
    (hsub : ts.Sublist us) : IsDoc us pos doc := by
  intro g hg
  obtain ⟨comments, hcomments, hgroup⟩ := h g hg
  exact ⟨comments, hcomments.mono hsub, hgroup⟩

/-- Comments on specifications may count only if these are in parentheses. -/
theorem IsDoc.ite {pos : Pos} {doc : Option CommentGroup} (h : IsDoc ts pos doc) (grouped : Bool) :
    IsDoc ts pos (if grouped then doc else none) := by
  intro g hg
  split at hg
  · exact h g hg
  · cases hg

end Comments

section Items

variable {Item : Type} {R : Item → Token → List Token → Prop} {es : List (Event Item)}
  {ts : List Token} {c : Commented Item}

/-- The comments on an item and before it are comments of the outline, and the comment on it ends on
the line above the token with which it begins. -/
theorem exists_of_mem_commented (h : Event.Reads R es ts)
    (hc : c ∈ Event.commented DocTracker.empty es) : ∃ t taken, R c.item t taken ∧
      taken.Sublist ts ∧ IsDoc ts t.start.pos (c.doc.map groupOf) ∧
      ∀ g ∈ c.before, IsComments ts g := by
  obtain ⟨before, first, last, after, rfl, hdoc, hbefore⟩ := exists_append_of_mem_commented hc
  obtain ⟨t, taken, hitem, rfl, hsub⟩ := h.exists_of_code_mem
    (List.mem_append_right before List.mem_cons_self)
  obtain ⟨s, gss, gs, hlead, hgroups, htrack⟩ := DocTracker.track_spec before
  obtain ⟨hcomments, hkind⟩ := h.comments_sublist
  -- All groups before the item are cut from the comments before it.
  have hgroup : ∀ g ∈ (gss ++ [gs]).flatten, IsComments ts g := by
    intro g hg
    have hg' : g.Sublist (Event.comments (before ++ .code c.item t.start.row last :: after)) := by
      rw [Event.comments_append, ← hlead.flatten]
      exact (List.sublist_flatten_of_mem hg).trans (List.sublist_append_left _ _)
    exact ⟨hlead.ne_nil g hg, hg'.trans hcomments, fun t ht => hkind t (hg'.subset ht)⟩
  refine ⟨t, taken, hitem, hsub, ?_, ?_⟩
  · intro g hg
    obtain ⟨comments, hcomments, rfl⟩ := Option.map_eq_some_iff.mp hg
    rw [hdoc] at hcomments
    have hlast := (htrack t.start.row).symm.trans hcomments
    obtain ⟨hmem, hends⟩ := Option.filter_eq_some_iff.mp hlast
    obtain ⟨last, hlast, hrow⟩ := (Option.any_eq_true _ _).mp (Bool.and_eq_true_iff.mp hends).2
    refine ⟨comments, hgroup comments ?_, rfl, ?_⟩
    · simp [List.mem_of_getLast? hmem]
    · rw [groupOf_eq hlast]
      exact congrArg (· + 1) (beq_iff_eq.mp hrow)
  · rw [hbefore]
    change ∀ g ∈ (DocTracker.track before).groups, _
    rwa [hgroups]

end Items

/-! ## Declarations -/

/-- The keyword of a declaration and the names that it declares, as it lists them. -/
def Decl.landmarks : Decl → List Ident
  | .func f => [⟨"func", f.pos⟩, f.name]
  | .type d => ⟨"type", d.pos⟩ :: d.specs.map TypeSpec.name
  | .value d => ⟨d.kind.keyword, d.pos⟩ :: d.specs.flatMap ValueSpec.names

/-- The name of the receiver, if the declaration is a method that names it. -/
def Decl.receiverIdent? : Decl → Option Ident
  | .func f => f.receiver.bind Receiver.name
  | _ => none

/-- Where a declaration and its specifications begin, with the comments on them. -/
def Decl.docs : Decl → List (Pos × Option CommentGroup)
  | .func f => [(f.pos, f.doc)]
  | .type d => (d.pos, d.doc) :: d.specs.map fun s => (s.name.pos, s.doc)
  | .value d => (d.pos, d.doc) :: d.specs.map fun s => (s.pos, s.doc)

section Decls

variable {all ts : List Token} {t : Token} {c : Commented Item} {d : Decl}

theorem map_name_typeSpecs (grouped : Bool) (specs : List (Event Ident)) :
    (typeSpecs grouped specs).map TypeSpec.name = Event.items specs := by
  rw [typeSpecs, List.map_map, ← map_item_commented specs DocTracker.empty]
  rfl

theorem flatMap_names_valueSpecs (grouped : Bool) (specs : List (Event (List Ident))) :
    (valueSpecs grouped specs).flatMap ValueSpec.names = (Event.items specs).flatten := by
  rw [valueSpecs, ← map_item_commented specs DocTracker.empty]
  induction Event.commented DocTracker.empty specs with
  | nil => rfl
  | cons s ss ih =>
    rw [List.map_cons, List.flatten_cons, ← ih, List.filterMap_cons]
    cases hitem : s.item <;> simp

/-- A declaration has the landmarks of the item that it is. -/
theorem landmarks_decl? (c : Commented Item) :
    c.decl?.toList.flatMap Decl.landmarks = c.item.landmarks := by
  unfold Commented.decl?
  cases hitem : c.item <;>
    simp [Decl.landmarks, Item.landmarks, map_name_typeSpecs, flatMap_names_valueSpecs]

/-- A receiver is named by a token of the program. -/
theorem occur_receiverIdent? (h : Item.Reads all c.item t ts) (hd : c.decl? = some d) {i : Ident}
    (hi : d.receiverIdent? = some i) : Occur [i] all := by
  unfold Commented.decl? at hd
  generalize c.item = item at h hd
  cases h with
  | package | other => cases hd
  | types | values =>
    cases hd
    cases hi
  | func _ hreceiver =>
    cases hd
    obtain ⟨r, hr, hi⟩ := Option.bind_eq_some_iff.mp hi
    exact hreceiver r hr i hi

theorem isDoc_of_mem_typeSpecs {specs : List (Event Ident)} {grouped : Bool} {s : TypeSpec}
    (h : Event.Reads (fun name => ReadsNames [name]) specs ts) (hs : s ∈ typeSpecs grouped specs) :
    IsDoc ts s.name.pos s.doc := by
  obtain ⟨spec, hspec, rfl⟩ := List.mem_map.mp hs
  obtain ⟨t, taken, hnames, -, hdoc, -⟩ := exists_of_mem_commented h hspec
  have hname : spec.item = t.ident := Option.some_inj.mp hnames.head
  change IsDoc ts spec.item.pos _
  rw [hname]
  exact hdoc.ite grouped

theorem isDoc_of_mem_valueSpecs {specs : List (Event (List Ident))} {grouped : Bool} {s : ValueSpec}
    (h : Event.Reads ReadsNames specs ts) (hs : s ∈ valueSpecs grouped specs) :
    IsDoc ts s.pos s.doc := by
  obtain ⟨spec, hspec, hs⟩ := List.mem_filterMap.mp hs
  obtain ⟨t, taken, hnames, -, hdoc, -⟩ := exists_of_mem_commented h hspec
  rw [hnames.head] at hs
  cases hs
  exact hdoc.ite grouped

/-- The comments on a declaration and on its specifications end on the line above. -/
theorem isDoc_of_mem_docs (h : Item.Reads all c.item t ts) (hsub : ts.Sublist all)
    (hdoc : IsDoc all t.start.pos (c.doc.map groupOf)) (hd : c.decl? = some d)
    {p : Pos × Option CommentGroup} (hp : p ∈ d.docs) : IsDoc all p.1 p.2 := by
  unfold Commented.decl? at hd
  generalize c.item = item at h hd
  cases h with
  | package | other => cases hd
  | func =>
    cases hd
    rw [List.mem_singleton.mp hp]
    exact hdoc
  | types _ hspecs =>
    cases hd
    rcases List.mem_cons.mp hp with rfl | hp
    · exact hdoc
    · obtain ⟨s, hs, rfl⟩ := List.mem_map.mp hp
      exact (isDoc_of_mem_typeSpecs hspecs hs).mono ((List.sublist_cons_self t _).trans hsub)
  | values _ hspecs =>
    cases hd
    rcases List.mem_cons.mp hp with rfl | hp
    · exact hdoc
    · obtain ⟨s, hs, rfl⟩ := List.mem_map.mp hp
      exact (isDoc_of_mem_valueSpecs hspecs hs).mono ((List.sublist_cons_self t _).trans hsub)

/-- Values are declared where the first of them stands. -/
theorem pos_of_mem_specs {v : ValueDecl} (hv : c.decl? = some (.value v)) {s : ValueSpec}
    (hs : s ∈ v.specs) : s.names.head?.map Ident.pos = some s.pos := by
  unfold Commented.decl? at hv
  split at hv <;> cases hv
  obtain ⟨spec, -, hs⟩ := List.mem_filterMap.mp hs
  obtain ⟨first, hfirst, rfl⟩ := Option.map_eq_some_iff.mp hs
  rw [hfirst]
  rfl

end Decls

/-! ## Files -/

/-- The identifiers that a file keeps, keywords included. -/
def SourceFile.idents (file : SourceFile) : List Ident :=
  ⟨"package", file.packagePos⟩ :: file.package ::
    file.decls.flatMap fun d => d.landmarks ++ d.receiverIdent?.toList

/-- Where the package clause, declarations and specifications begin, with the comments on them. -/
def SourceFile.docs (file : SourceFile) : List (Pos × Option CommentGroup) :=
  (file.packagePos, file.packageDoc) :: file.decls.flatMap Decl.docs

/-- The groups of comments that a file keeps. -/
def SourceFile.commentGroups (file : SourceFile) : List CommentGroup :=
  file.leadingComments ++ file.docs.filterMap Prod.snd

/-- What a file says about a text agrees with the text. -/
structure SourceFile.Agrees (file : SourceFile) (content : String) : Prop where
  /-- The file keeps the text. -/
  content_eq : file.content = content
  /-- Identifiers are spelled where they say. -/
  standsIn : ∀ i ∈ file.idents, i.StandsIn content.toList
  /-- Identifiers are found at their columns in their lines. -/
  onLine : ∀ i ∈ file.idents, i.OnLine file.line
  /-- Keywords and declared names come in the order of the text, a keyword before its names. -/
  increasing : (file.decls.flatMap Decl.landmarks).Pairwise fun i j => i.pos.offset < j.pos.offset
  /-- Values are declared where the first of them stands. -/
  spec_pos : ∀ d, .value d ∈ file.decls → ∀ s ∈ d.specs, s.names.head?.map Ident.pos = some s.pos
  /-- Groups of comments quote comments of the text. -/
  quotes : ∀ g ∈ file.commentGroups, ∃ comments, g.Quotes content comments
  /-- The comment on something ends on the line above. -/
  docs : ∀ p ∈ file.docs, ∀ g, p.2 = some g → g.endLine + 1 = p.1.line

section Files

variable {ts : List Token} {es : List (Event Item)} {file : SourceFile} {d : Decl}

/-- A file is made of the items of an outline that is read from some tokens. -/
structure SourceFile.IsRead (file : SourceFile) (ts : List Token) (es : List (Event Item)) :
    Prop where
  reads : Event.Reads (Item.Reads ts) es ts
  clause : ∃ c ∈ Event.commented DocTracker.empty es,
    c.item = .package file.packagePos file.package ∧
      file.packageDoc = c.doc.map groupOf ∧ file.leadingComments = c.before.map groupOf
  decls : file.decls = (Event.commented DocTracker.empty es).filterMap Commented.decl?

/-- A file is read from the tokens of its text. -/
theorem isRead_of_ofText {path : Path} {content : String}
    (h : SourceFile.ofText path content = .ok file) : file.content = content ∧
      ∃ ts es, tokens? content.toList = some ts ∧ file.IsRead ts es := by
  unfold SourceFile.ofText at h
  split at h
  · cases h
  rename_i es houtline
  split at h
  · cases h
  rename_i hitems
  cases h
  obtain ⟨ts, hts, hes⟩ := Option.bind_eq_some_iff.mp houtline
  obtain ⟨⟨pos, name, c⟩, hfind, rfl⟩ := Option.map_eq_some_iff.mp hitems
  obtain ⟨c', hc', hpackage⟩ := List.exists_of_findSome?_eq_some hfind
  split at hpackage
  · rename_i hitem
    cases hpackage
    exact ⟨rfl, ts, es, hts, reads_of_outline? hes,
      ⟨c, List.mem_reverse.mp hc', hitem, rfl, rfl⟩, rfl⟩
  · cases hpackage

namespace SourceFile.IsRead

/-- The package clause occurs among the tokens, and the groups of comments before it are comments
among them. -/
theorem package (h : file.IsRead ts es) : Occur [⟨"package", file.packagePos⟩, file.package] ts ∧
    IsDoc ts file.packagePos file.packageDoc ∧
    ∀ g ∈ file.leadingComments, ∃ comments, IsComments ts comments ∧ g = groupOf comments := by
  obtain ⟨c, hc, hitem, hdoc, hleading⟩ := h.clause
  obtain ⟨t, taken, hreads, hsub, hisDoc, hbefore⟩ := exists_of_mem_commented h.reads hc
  rw [hitem] at hreads
  obtain ⟨hpos, hoccur⟩ := hreads.of_package
  refine ⟨hoccur.mono hsub, ?_, fun g hg => ?_⟩
  · rw [hpos, hdoc]
    exact hisDoc
  · rw [hleading] at hg
    obtain ⟨comments, hcomments, rfl⟩ := List.mem_map.mp hg
    exact ⟨comments, hbefore comments hcomments, rfl⟩

/-- A declaration is one of the items. -/
theorem exists_item (h : file.IsRead ts es) (hd : d ∈ file.decls) :
    ∃ (c : Commented Item) (t : Token) (taken : List Token), c.decl? = some d ∧
      Item.Reads ts c.item t taken ∧ taken.Sublist ts ∧
      IsDoc ts t.start.pos (c.doc.map groupOf) := by
  rw [h.decls] at hd
  obtain ⟨c, hc, hd⟩ := List.mem_filterMap.mp hd
  obtain ⟨t, taken, hitem, hsub, hdoc, -⟩ := exists_of_mem_commented h.reads hc
  exact ⟨c, t, taken, hd, hitem, hsub, hdoc⟩

/-- Keywords and declared names occur in order. -/
theorem landmarks (h : file.IsRead ts es) : Occur (file.decls.flatMap Decl.landmarks) ts := by
  have hlandmarks : file.decls.flatMap Decl.landmarks =
      (Event.items es).flatMap Item.landmarks := by
    rw [h.decls, List.filterMap_eq_flatMap_toList, List.flatMap_assoc,
      ← map_item_commented es DocTracker.empty, List.flatMap_map]
    simp only [landmarks_decl?]
  rw [hlandmarks]
  exact h.reads.occur fun item t ts hreads => hreads.occur

/-- Every identifier is one of the tokens. -/
theorem idents (h : file.IsRead ts es) {i : Ident} (hi : i ∈ file.idents) :
    ∃ t ∈ ts, t.IsWord ∧ t.ident = i := by
  have hi : i ∈ [⟨"package", file.packagePos⟩, file.package] ∨
      i ∈ file.decls.flatMap fun d => d.landmarks ++ d.receiverIdent?.toList :=
    List.mem_append.mp hi
  rcases hi with hi | hi
  · exact h.package.1.exists_token hi
  · obtain ⟨d, hd, hi⟩ := List.mem_flatMap.mp hi
    rcases List.mem_append.mp hi with hi | hi
    · exact h.landmarks.exists_token (List.mem_flatMap.mpr ⟨d, hd, hi⟩)
    · obtain ⟨c, t, taken, hdecl, hreads, -⟩ := h.exists_item hd
      exact (occur_receiverIdent? hreads hdecl (Option.mem_toList.mp hi)).exists_token
        (List.mem_singleton_self i)

/-- Every comment on something ends on the line above. -/
theorem docs (h : file.IsRead ts es) {p : Pos × Option CommentGroup} (hp : p ∈ file.docs) :
    IsDoc ts p.1 p.2 := by
  rcases List.mem_cons.mp hp with rfl | hp
  · exact h.package.2.1
  · obtain ⟨d, hd, hp⟩ := List.mem_flatMap.mp hp
    obtain ⟨c, t, taken, hdecl, hreads, hsub, hdoc⟩ := h.exists_item hd
    exact isDoc_of_mem_docs hreads hsub hdoc hdecl hp

/-- Every group consists of comments among the tokens. -/
theorem commentGroups (h : file.IsRead ts es) {g : CommentGroup} (hg : g ∈ file.commentGroups) :
    ∃ comments, IsComments ts comments ∧ g = groupOf comments := by
  rcases List.mem_append.mp hg with hg | hg
  · exact h.package.2.2 g hg
  · obtain ⟨p, hp, hg⟩ := List.mem_filterMap.mp hg
    obtain ⟨comments, hcomments, hgroup, -⟩ := h.docs hp g hg
    exact ⟨comments, hcomments, hgroup⟩

end SourceFile.IsRead

end Files

/-- A text with a byte order mark, with carriage returns and with letters of several bytes. -/
def markedText : String :=
  "\uFEFF// Package a.\r\npackage a\r\n\r\n// F.\r\nfunc (é *E) F() \x7b\x7d\r\n\r\n" ++
    "var (\r\n\t/* λ */ x, y = 1, 2\r\n\t// Z.\r\n\tz int\r\n)\r\n"

/-- The identifiers of the text. -/
def markedIdents : List Ident :=
  [⟨"package", ⟨2, 1, 18⟩⟩, ⟨"a", ⟨2, 9, 26⟩⟩, ⟨"func", ⟨5, 1, 38⟩⟩, ⟨"F", ⟨5, 14, 51⟩⟩,
    ⟨"é", ⟨5, 7, 44⟩⟩, ⟨"var", ⟨7, 1, 61⟩⟩, ⟨"x", ⟨8, 11, 78⟩⟩, ⟨"y", ⟨8, 14, 81⟩⟩,
    ⟨"z", ⟨10, 2, 100⟩⟩]

end GoStyle
