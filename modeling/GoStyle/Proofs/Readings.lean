import Mathlib.Data.List.TakeWhile
import GoStyle.Proofs.LeadComments

/-!
# What outlines are read from

A shape takes tokens from the front and leaves the rest as it is (`Shape.suffix_of_accept?`). So
items lie one after the other in the tokens of a program, with the comments between them
(`Event.Reads`): each declaration begins with its keyword, and its names come in the order in which
it lists them (`Item.Reads`). The outline of a program is read from all of its tokens
(`reads_of_outline?`).
-/

namespace GoStyle

/-! ## Remainders -/

section Remainders

variable {Name : Type} {grammar : Name → Shape Name} {ts rest : List Token}

theorem skipTrivia_cons {t : Token} (h : t.isTrivia = false) (ts : List Token) :
    skipTrivia (t :: ts) = t :: ts := by
  simp [skipTrivia, h]

theorem takeToken?_eq_some_iff {p : Token → Bool} :
    takeToken? p ts = some rest ↔ ∃ t, skipTrivia ts = t :: rest ∧ p t := by
  unfold takeToken?
  split
  · rename_i hskip
    simp [hskip]
  · rename_i t after hskip
    rw [hskip]
    by_cases hp : p t <;> simp [hp]

theorem exists_append_of_skipTrivia {t : Token} (h : skipTrivia ts = t :: rest) :
    ∃ skipped, ts = skipped ++ t :: rest ∧ t.isTrivia = false := by
  rw [skipTrivia] at h
  refine ⟨ts.takeWhile Token.isTrivia, ?_, ?_⟩
  · rw [← h]
    exact List.takeWhile_append_dropWhile.symm
  · have hne : ts.dropWhile Token.isTrivia ≠ [] := by simp [h]
    have hnot := List.head_dropWhile_not Token.isTrivia hne
    simpa only [h, List.head_cons] using hnot

theorem suffix_of_takeToken? {p : Token → Bool} (h : takeToken? p ts = some rest) :
    rest <:+ ts := by
  obtain ⟨t, hskip, -⟩ := takeToken?_eq_some_iff.mp h
  obtain ⟨skipped, rfl, -⟩ := exists_append_of_skipTrivia hskip
  exact (List.suffix_cons t rest).trans (List.suffix_append skipped _)

theorem suffix_of_takeTerminator? (h : takeTerminator? ts = some rest) : rest <:+ ts := by
  have hskip : skipComments ts <:+ ts := List.dropWhile_suffix _
  unfold takeTerminator? at h
  split at h
  · cases h
    exact List.nil_suffix
  · rename_i t after hskipped
    split at h
    · cases h
      rw [hskipped] at hskip
      exact (List.suffix_cons t _).trans hskip
    · cases h

/-- What follows the tokens of a shape is the end of the tokens. -/
theorem Shape.suffix_of_accept? {fuel : ℕ} {a : Shape Name}
    (h : accept? grammar fuel a ts = some rest) : rest <:+ ts := by
  -- A repetition and a name lead to shapes that are no parts of them, so the fuel carries the proof.
  induction fuel generalizing a ts rest with
  | zero => cases h
  | succ fuel ih =>
    cases a with
    | nothing =>
      cases h
      exact List.suffix_rfl
    | mark | name | word | literal | quoted => exact suffix_of_takeToken? h
    | onLine =>
      rw [accept?] at h
      split at h <;> cases h
      exact List.suffix_rfl
    | before texts =>
      rw [accept?] at h
      split at h
      · cases h
      · split at h <;> cases h
        exact List.suffix_rfl
    | terminator => exact suffix_of_takeTerminator? h
    | seq a b =>
      obtain ⟨middle, ha, hb⟩ := Option.bind_eq_some_iff.mp h
      exact (ih hb).trans (ih ha)
    | alt a b =>
      rw [accept?] at h
      split at h
      · rename_i ha
        cases h
        exact ih ha
      · exact ih h
    | many a =>
      rw [accept?] at h
      split at h
      · rename_i ha
        exact (ih h).trans (ih ha)
      · cases h
        exact List.suffix_rfl
    | ref n => exact ih h

theorem Shape.suffix_of_follow? {a : Shape Phrase} (h : a.follow? ts = some rest) : rest <:+ ts :=
  suffix_of_accept? h

/-- The tokens of a list of words begin with a word. -/
theorem Shape.exists_word_of_follow? (h : Shape.word.commas.follow? ts = some rest) :
    ∃ t after, skipTrivia ts = t :: after ∧ t.kind = .word ∧ rest <:+ after := by
  unfold follow? at h
  have hfuel : 256 * (ts.length + 1) = 256 * ts.length + 254 + 2 := by omega
  rw [hfuel] at h
  obtain ⟨after, hword, hmore⟩ := Option.bind_eq_some_iff.mp h
  obtain ⟨t, hskip, hkind⟩ := takeToken?_eq_some_iff.mp hword
  exact ⟨t, after, hskip, by simpa using hkind, suffix_of_accept? hmore⟩

theorem consumed_append (taken rest : List Token) : consumed (taken ++ rest) rest = taken := by
  simp [consumed]

end Remainders

/-! ## Names among tokens -/

/-- Whether a token is a name or a keyword. -/
def Token.IsWord (t : Token) : Prop :=
  t.kind = .word ∨ t.text ∈ keywords

/-- Whether identifiers stand among some tokens, in order. -/
def Occur (is : List Ident) (ts : List Token) : Prop :=
  ∃ ws : List Token, ws.Sublist ts ∧ (∀ t ∈ ws, t.IsWord) ∧ is = ws.map Token.ident

namespace Occur

variable {is js : List Ident} {ts us : List Token} {t : Token}

theorem nil (ts : List Token) : Occur [] ts :=
  ⟨[], List.nil_sublist ts, by simp, rfl⟩

theorem append (h : Occur is ts) (h' : Occur js us) : Occur (is ++ js) (ts ++ us) := by
  obtain ⟨ws, hws, hword, rfl⟩ := h
  obtain ⟨vs, hvs, hword', rfl⟩ := h'
  refine ⟨ws ++ vs, hws.append hvs, ?_, List.map_append.symm⟩
  intro t ht
  exact (List.mem_append.mp ht).elim (hword t) (hword' t)

theorem mono (h : Occur is ts) (hsub : ts.Sublist us) : Occur is us := by
  obtain ⟨ws, hws, hword, rfl⟩ := h
  exact ⟨ws, hws.trans hsub, hword, rfl⟩

theorem singleton (h : t.IsWord) : Occur [t.ident] [t] :=
  ⟨[t], List.Sublist.refl _, by simpa using h, rfl⟩

theorem cons (h : t.IsWord) (h' : Occur is ts) : Occur (t.ident :: is) (t :: ts) :=
  (singleton h).append h'

end Occur

/-- A keyword stands where its token does. -/
theorem Token.ident_of_isMark {t : Token} {text : String} (h : t.isMark text.toList) :
    t.ident = ⟨text, t.start.pos⟩ := by
  obtain ⟨-, htext⟩ := Bool.and_eq_true_iff.mp h
  rw [Token.ident, beq_iff_eq.mp htext, String.ofList_toList]

theorem Token.isWord_of_isMark {t : Token} {text : List Char} (h : t.isMark text)
    (hkeyword : text ∈ keywords) : t.IsWord := by
  obtain ⟨-, htext⟩ := Bool.and_eq_true_iff.mp h
  rw [← beq_iff_eq.mp htext] at hkeyword
  exact Or.inr hkeyword

/-! ## Outlines -/

section Events

variable {Item : Type}

/-- Tokens that an outline is read from, where `R` tells with which token an item begins and what it
is read from. Ends of lines leave nothing in an outline, nor do the tokens around a list in
parentheses. -/
inductive Event.Reads (R : Item → Token → List Token → Prop) :
    List (Event Item) → List Token → Prop where
  | nil : Reads R [] []
  | skip {es ts} (t : Token) : Reads R es ts → Reads R es (t :: ts)
  | comment {es ts t} : t.kind = .comment → Reads R es ts → Reads R (.comment t :: es) (t :: ts)
  | mark {es ts} (t : Token) : Reads R es ts → Reads R (.mark t.start.row :: es) (t :: ts)
  | code {es ts item t taken} (last : ℕ) : R item t taken → Reads R es ts →
    Reads R (.code item t.start.row last :: es) (taken ++ ts)

variable {R : Item → Token → List Token → Prop} {es : List (Event Item)} {ts : List Token}

namespace Event.Reads

theorem skip_append (us : List Token) (h : Reads R es ts) : Reads R es (us ++ ts) := by
  induction us with
  | nil => exact h
  | cons u us ih => exact skip u ih

theorem append_skip (us : List Token) (h : Reads R es ts) : Reads R es (ts ++ us) := by
  induction h with
  | nil => simpa using skip_append us (nil (R := R))
  | skip t _ ih => exact skip t ih
  | comment ht _ ih => exact comment ht ih
  | mark t _ ih => exact mark t ih
  | code last hitem _ ih =>
    rw [List.append_assoc]
    exact code last hitem ih

theorem prepend_comments {cs : List Token} (hcs : ∀ t ∈ cs, t.kind = .comment) (h : Reads R es ts) :
    Reads R (cs.map Event.comment ++ es) (cs ++ ts) := by
  induction cs with
  | nil => exact h
  | cons t cs ih =>
    obtain ⟨ht, hcs⟩ := List.forall_mem_cons.mp hcs
    exact comment ht (ih hcs)

/-- The comments of an outline come in order. -/
theorem comments_sublist (h : Reads R es ts) :
    (Event.comments es).Sublist ts ∧ ∀ t ∈ Event.comments es, t.kind = .comment := by
  induction h with
  | nil => exact ⟨List.Sublist.refl _, by simp [Event.comments]⟩
  | skip t _ ih | mark t _ ih => exact ⟨ih.1.cons t, ih.2⟩
  | comment ht _ ih => exact ⟨ih.1.cons_cons _, List.forall_mem_cons.mpr ⟨ht, ih.2⟩⟩
  | code last _ _ ih => exact ⟨ih.1.trans (List.sublist_append_right _ _), ih.2⟩

/-- Names come in the order of the items that have them. -/
theorem occur {names : Item → List Ident} (hR : ∀ item t ts, R item t ts → Occur (names item) ts)
    (h : Reads R es ts) : Occur ((Event.items es).flatMap names) ts := by
  induction h with
  | nil => exact Occur.nil _
  | skip t _ ih | mark t _ ih => exact ih.mono (List.sublist_cons_self t _)
  | comment _ _ ih => exact ih.mono (List.sublist_cons_self _ _)
  | code last hitem _ ih => exact (hR _ _ _ hitem).append ih

/-- An item is read from tokens of its own, the first of which is on the row where it begins. -/
theorem exists_of_code_mem (h : Reads R es ts) {item : Item} {first last : ℕ}
    (hmem : Event.code item first last ∈ es) :
    ∃ t taken, R item t taken ∧ t.start.row = first ∧ taken.Sublist ts := by
  induction h with
  | nil => cases hmem
  | skip t _ ih =>
    obtain ⟨u, taken, hitem, hrow, hsub⟩ := ih hmem
    exact ⟨u, taken, hitem, hrow, hsub.cons t⟩
  | comment _ _ ih | mark _ _ ih =>
    obtain ⟨u, taken, hitem, hrow, hsub⟩ := ih (by simpa using hmem)
    exact ⟨u, taken, hitem, hrow, hsub.cons _⟩
  | code last hitem _ ih =>
    rcases List.mem_cons.mp hmem with heq | hmem
    · cases heq
      exact ⟨_, _, hitem, rfl, List.sublist_append_left _ _⟩
    · obtain ⟨u, taken, hitem, hrow, hsub⟩ := ih hmem
      exact ⟨u, taken, hitem, hrow, hsub.trans (List.sublist_append_right _ _)⟩

end Event.Reads

/-- Anywhere in the given tokens, a reader of items takes tokens from the front. -/
def IsReader (all : List Token) (item? : List Token → Option (Item × List Token))
    (R : Item → Token → List Token → Prop) : Prop :=
  ∀ t ts item rest, t :: ts <:+ all → t.isTrivia = false → item? (t :: ts) = some (item, rest) →
    ∃ taken, t :: ts = taken ++ rest ∧ R item t taken

variable {item? : List Token → Option (Item × List Token)} {all rest : List Token}

/-- What the next token of an outline may be: the end of a line, a comment, a closing parenthesis, or
the first token of an item. Comments may stand between an item and what ends it. -/
theorem list?_cons_cases {limit : ℕ} {t : Token}
    (h : Event.list? item? (limit + 1) (t :: ts) = some (es, rest)) :
    Event.list? item? limit ts = some (es, rest) ∨
    (t.kind = .comment ∧ ∃ es', es = .comment t :: es' ∧
      Event.list? item? limit ts = some (es', rest)) ∨
    (es = [] ∧ rest = t :: ts) ∨
    ∃ item after comments, t.isTrivia = false ∧ item? (t :: ts) = some (item, after) ∧
      (∀ u ∈ comments, u.kind = .comment) ∧
      ((after = comments ∧ rest = [] ∧
        es = .code item t.start.row (lastRow (t :: ts) after) :: comments.map Event.comment) ∨
      ∃ e more es', after = comments ++ e :: more ∧
        Event.list? item? limit more = some (es', rest) ∧
        es = .code item t.start.row (lastRow (t :: ts) after) :: comments.map Event.comment ++
          .mark e.start.row :: es') := by
  rw [Event.list?] at h
  split at h
  · exact .inl h
  rename_i hlineEnd
  split at h
  · rename_i hcomment
    obtain ⟨⟨es', rest'⟩, hlist, heq⟩ := Option.map_eq_some_iff.mp h
    cases heq
    exact .inr (.inl ⟨hcomment, es', rfl, hlist⟩)
  rename_i hcomment
  split at h
  · cases h
    exact .inr (.inr (.inl ⟨rfl, rfl⟩))
  split at h
  · cases h
  rename_i item after hitem
  have htrivia : t.isTrivia = false := by simp [Token.isTrivia, hlineEnd, hcomment]
  have hafter : after.takeWhile (·.kind == .comment) ++ skipComments after = after :=
    List.takeWhile_append_dropWhile
  have hcomments : ∀ u ∈ after.takeWhile (·.kind == .comment), u.kind = .comment := by
    intro u hu
    have hkind := List.mem_takeWhile_imp hu
    exact beq_iff_eq.mp hkind
  refine .inr (.inr (.inr ⟨item, after, _, htrivia, hitem, hcomments, ?_⟩))
  split at h
  · rename_i hnil
    cases h
    rw [hnil, List.append_nil] at hafter
    exact .inl ⟨hafter.symm, rfl, rfl⟩
  · rename_i e more hcons
    split at h
    · obtain ⟨⟨es', rest'⟩, hlist, heq⟩ := Option.map_eq_some_iff.mp h
      cases heq
      rw [hcons] at hafter
      exact .inr ⟨e, more, es', hafter.symm, hlist, rfl⟩
    · cases h

/-- The outline of items that a reader reads is read from the tokens before the rest. -/
theorem reads_of_list? (hreader : IsReader all item? R) {limit : ℕ} (hall : ts <:+ all)
    (h : Event.list? item? limit ts = some (es, rest)) :
    ∃ taken, ts = taken ++ rest ∧ Event.Reads R es taken := by
  induction limit generalizing ts es with
  | zero => cases h
  | succ limit ih =>
    cases ts with
    | nil =>
      cases h
      exact ⟨[], rfl, .nil⟩
    | cons t ts =>
      have hts : ts <:+ all := (List.suffix_cons t ts).trans hall
      rcases list?_cons_cases h with hlist | ⟨hcomment, es', rfl, hlist⟩ | ⟨rfl, rfl⟩ |
        ⟨item, after, comments, htrivia, hitem, hcomments, hmore⟩
      · obtain ⟨taken, rfl, hreads⟩ := ih hts hlist
        exact ⟨t :: taken, rfl, hreads.skip t⟩
      · obtain ⟨taken, rfl, hreads⟩ := ih hts hlist
        exact ⟨t :: taken, rfl, hreads.comment hcomment⟩
      · exact ⟨[], rfl, .nil⟩
      · obtain ⟨taken, htaken, hR⟩ := hreader t ts item after hall htrivia hitem
        rw [htaken] at hall ⊢
        rcases hmore with ⟨rfl, rfl, rfl⟩ | ⟨e, more, es', rfl, hlist, rfl⟩
        · refine ⟨taken ++ (after ++ []), by simp, .code _ hR ?_⟩
          simpa using Event.Reads.nil.prepend_comments hcomments
        · have hmore : more <:+ all :=
            (List.suffix_cons e more).trans ((List.suffix_append comments _).trans
              ((List.suffix_append taken _).trans hall))
          obtain ⟨taken', rfl, hreads⟩ := ih hmore hlist
          refine ⟨taken ++ (comments ++ e :: taken'), by simp, ?_⟩
          exact .code _ hR ((hreads.mark e).prepend_comments hcomments)

/-- Specifications are read from the tokens before the rest. -/
theorem reads_of_specs? (hreader : IsReader ts item? R) {grouped : Bool}
    (h : specs? item? ts = some (grouped, es, rest)) :
    ∃ taken, ts = taken ++ rest ∧ Event.Reads R es taken := by
  unfold specs? at h
  split at h
  · cases h
  rename_i t after hskip
  obtain ⟨skipped, rfl, htrivia⟩ := exists_append_of_skipTrivia hskip
  split at h
  · split at h
    · rename_i events u rest' hlist
      cases h
      have hafter : after <:+ skipped ++ t :: after :=
        (List.suffix_cons t after).trans (List.suffix_append skipped _)
      obtain ⟨taken, rfl, hreads⟩ := reads_of_list? hreader hafter hlist
      refine ⟨skipped ++ t :: (taken ++ [u]), by simp, ?_⟩
      exact ((hreads.append_skip [u]).mark t).skip_append skipped
    · cases h
  · obtain ⟨⟨spec, rest'⟩, hspec, heq⟩ := Option.map_eq_some_iff.mp h
    cases heq
    have hall : t :: after <:+ skipped ++ t :: after := List.suffix_append skipped _
    obtain ⟨taken, htaken, hR⟩ := hreader t after spec rest hall htrivia hspec
    refine ⟨skipped ++ taken, by rw [htaken, List.append_assoc], ?_⟩
    simpa using (Event.Reads.code _ hR .nil).skip_append skipped

end Events

/-! ## Specifications -/

section Specs

variable {all ts rest : List Token} {name : Ident} {names : List Ident}

/-- Tokens that declared names are read from: they stand there in order, the first one in front. -/
structure ReadsNames (names : List Ident) (t : Token) (ts : List Token) : Prop where
  occur : Occur names ts
  head : names.head? = some t.ident

theorem takeWord?_eq_some_iff : takeWord? ts = some (name, rest) ↔
    ∃ t, skipTrivia ts = t :: rest ∧ t.kind = .word ∧ name = t.ident := by
  unfold takeWord?
  split
  · rename_i hskip
    simp [hskip]
  · rename_i t after hskip
    rw [hskip]
    by_cases hkind : t.kind = .word
    · simp [hkind, and_comm, eq_comm]
    · simp [hkind]

/-- Listed names are words at the front of the tokens. -/
theorem exists_of_takeNames? (h : takeNames? ts = some (names, rest)) :
    ∃ t after, skipTrivia ts = t :: after ∧ t.kind = .word ∧ rest <:+ after ∧
      names = ((consumed ts rest).filter (·.kind == .word)).map Token.ident := by
  obtain ⟨after, hfollow, heq⟩ := Option.map_eq_some_iff.mp h
  cases heq
  obtain ⟨t, after, hskip, hkind, hsuffix⟩ := Shape.exists_word_of_follow? hfollow
  exact ⟨t, after, hskip, hkind, hsuffix, rfl⟩

/-- The words among some tokens occur there. -/
theorem Occur.words (ts : List Token) :
    Occur ((ts.filter (·.kind == .word)).map Token.ident) ts := by
  refine ⟨_, List.filter_sublist, fun t ht => Or.inl ?_, rfl⟩
  simpa using (List.mem_filter.mp ht).2

theorem isReader_typeSpec? : IsReader all typeSpec? fun name => ReadsNames [name] := by
  rintro t ts name rest - htrivia h
  obtain ⟨⟨_, after⟩, hword, hrest⟩ := Option.bind_eq_some_iff.mp h
  obtain ⟨rest', hfollow, heq⟩ := Option.bind_eq_some_iff.mp hrest
  cases heq
  obtain ⟨u, hskip, hkind, rfl⟩ := takeWord?_eq_some_iff.mp hword
  rw [skipTrivia_cons htrivia] at hskip
  cases hskip
  obtain ⟨taken, rfl⟩ := Shape.suffix_of_follow? hfollow
  exact ⟨t :: taken, rfl, Occur.cons (Or.inl hkind) (Occur.nil taken), rfl⟩

theorem isReader_valueSpec? (kind : ValueKind) : IsReader all (valueSpec? kind) ReadsNames := by
  rintro t ts names rest - htrivia h
  obtain ⟨⟨_, after⟩, hnames, hrest⟩ := Option.bind_eq_some_iff.mp h
  obtain ⟨rest', hfollow, heq⟩ := Option.bind_eq_some_iff.mp hrest
  cases heq
  obtain ⟨u, us, hskip, hkind, ⟨listed, rfl⟩, rfl⟩ := exists_of_takeNames? hnames
  rw [skipTrivia_cons htrivia] at hskip
  cases hskip
  obtain ⟨taken, rfl⟩ := Shape.suffix_of_follow? hfollow
  refine ⟨t :: listed ++ taken, by simp, ?_⟩
  rw [← List.cons_append, consumed_append]
  refine ⟨(Occur.words _).mono (List.sublist_append_left _ _), ?_⟩
  rw [List.filter_cons_of_pos (by simp [hkind])]
  rfl

theorem Token.isWord_of_isName {t : Token} (h : t.isName) : t.IsWord :=
  Or.inl (beq_iff_eq.mp (Bool.and_eq_true_iff.mp h).1)

/-- The name of a receiver is one of the tokens that describe the receiver. -/
theorem occur_receiverOf (h : (receiverOf ts).name = some name) : Occur [name] ts := by
  have hconsumed : ∀ {t rest}, t ∈ consumed ts rest → t.IsWord → Occur [t.ident] ts :=
    fun ht hword => (Occur.singleton hword).mono
      (List.singleton_sublist.mpr (List.mem_of_mem_take ht))
  unfold receiverOf at h
  dsimp only at h
  split at h
  · rename_i names rest hnamed
    obtain ⟨⟨names', rest'⟩, hnames, hmore⟩ := Option.bind_eq_some_iff.mp hnamed
    obtain ⟨_, -, heq⟩ := Option.bind_eq_some_iff.mp hmore
    cases heq
    obtain ⟨-, -, -, -, -, rfl⟩ := exists_of_takeNames? hnames
    obtain ⟨t, ht, rfl⟩ := List.mem_map.mp (List.mem_of_mem_head? h)
    obtain ⟨ht, hkind⟩ := List.mem_filter.mp ht
    exact hconsumed ht (Or.inl (beq_iff_eq.mp hkind))
  · split at h
    · obtain ⟨t, hfind, rfl⟩ := Option.map_eq_some_iff.mp h
      exact hconsumed (List.mem_of_find?_eq_some hfind)
        (Token.isWord_of_isName (List.find?_some hfind))
    · cases h

end Specs

/-! ## Items -/

/-- The keyword of a declaration and the names that it declares. -/
def Item.landmarks : Item → List Ident
  | .func pos name _ => [⟨"func", pos⟩, name]
  | .types pos _ specs => ⟨"type", pos⟩ :: Event.items specs
  | .values kind pos _ specs => ⟨kind.keyword, pos⟩ :: (Event.items specs).flatten
  | .package _ _ | .other => []

/-- The token with which an item begins and the tokens of a program that it is read from. If it is
a declaration, the token is its keyword. -/
inductive Item.Reads (all : List Token) : Item → Token → List Token → Prop where
  | package {name t ts} : Occur [⟨"package", t.start.pos⟩, name] ts →
    Reads all (.package t.start.pos name) t ts
  | func {name receiver t ts} : Occur [⟨"func", t.start.pos⟩, name] ts →
    (∀ r, receiver = some r → ∀ i, r.name = some i → Occur [i] all) →
    Reads all (.func t.start.pos name receiver) t ts
  | types {grouped specs t ts} : t.isMark "type".toList →
    Event.Reads (fun name => ReadsNames [name]) specs ts →
    Reads all (.types t.start.pos grouped specs) t (t :: ts)
  | values {kind grouped specs t ts} : t.isMark kind.keyword.toList →
    Event.Reads ReadsNames specs ts →
    Reads all (.values kind t.start.pos grouped specs) t (t :: ts)
  | other {t ts} : Reads all .other t ts

section Items

variable {all ts rest : List Token} {item : Item} {pos : Pos} {t : Token}

theorem ValueKind.keyword_mem (kind : ValueKind) : kind.keyword.toList ∈ keywords := by
  cases kind <;> decide

theorem Occur.mark {text : String} {is : List Ident} (h : t.isMark text.toList)
    (hkeyword : text.toList ∈ keywords) (his : Occur is ts) :
    Occur (⟨text, t.start.pos⟩ :: is) (t :: ts) := by
  rw [← Token.ident_of_isMark h]
  exact his.cons (Token.isWord_of_isMark h hkeyword)

/-- The keyword and the names of an item occur in order. -/
theorem Item.Reads.occur (h : Item.Reads all item t ts) : Occur item.landmarks ts := by
  cases h with
  | package | other => exact Occur.nil _
  | func hname => exact hname
  | types hmark hspecs =>
    refine Occur.mark hmark (by decide) ?_
    simpa [Item.landmarks] using hspecs.occur fun _ _ _ hnames => hnames.occur
  | values hmark hspecs =>
    refine Occur.mark hmark (ValueKind.keyword_mem _) ?_
    simpa [Item.landmarks] using hspecs.occur fun _ _ _ hnames => hnames.occur

theorem Item.Reads.of_package {name : Ident} (h : Item.Reads all (.package pos name) t ts) :
    pos = t.start.pos ∧ Occur [⟨"package", pos⟩, name] ts := by
  cases h with
  | package hoccur => exact ⟨rfl, hoccur⟩

/-- A name is read from the tokens before the rest. -/
theorem exists_of_takeWord? {name : Ident} (h : takeWord? ts = some (name, rest)) :
    ∃ taken, ts = taken ++ rest ∧ Occur [name] taken := by
  obtain ⟨t, hskip, hkind, rfl⟩ := takeWord?_eq_some_iff.mp h
  obtain ⟨skipped, rfl, -⟩ := exists_append_of_skipTrivia hskip
  refine ⟨skipped ++ [t], by simp, ?_⟩
  exact (Occur.singleton (Or.inl hkind)).mono (List.sublist_append_right skipped _)

theorem reads_of_packageItem? (hmark : t.isMark "package".toList)
    (h : packageItem? t.start.pos ts = some (item, rest)) :
    ∃ taken, t :: ts = taken ++ rest ∧ Item.Reads all item t taken := by
  obtain ⟨⟨name, rest'⟩, hword, heq⟩ := Option.map_eq_some_iff.mp h
  cases heq
  obtain ⟨taken, rfl, hname⟩ := exists_of_takeWord? hword
  exact ⟨t :: taken, rfl, .package (Occur.mark hmark (by decide) hname)⟩

theorem reads_of_funcItem? (hall : ts <:+ all) (hmark : t.isMark "func".toList)
    (h : funcItem? t.start.pos ts = some (item, rest)) :
    ∃ taken, t :: ts = taken ++ rest ∧ Item.Reads all item t taken := by
  unfold funcItem? at h
  split at h
  · rename_i after hparameters
    obtain ⟨⟨name, after'⟩, hword, hmore⟩ := Option.bind_eq_some_iff.mp h
    obtain ⟨rest', hfollow, heq⟩ := Option.bind_eq_some_iff.mp hmore
    cases heq
    -- A receiver is read on its own, from where the parameters begin, however far they reach.
    have hreceiver : ∀ i, (receiverOf (skipTrivia ts).tail).name = some i → Occur [i] all := by
      intro i hi
      have hsub : (skipTrivia ts).tail.Sublist ts :=
        (List.tail_sublist _).trans (List.dropWhile_sublist _)
      exact (occur_receiverOf hi).mono (hsub.trans hall.sublist)
    obtain ⟨parameters, rfl⟩ := Shape.suffix_of_follow? hparameters
    obtain ⟨taken, rfl, hname⟩ := exists_of_takeWord? hword
    obtain ⟨signature, rfl⟩ := Shape.suffix_of_follow? hfollow
    refine ⟨t :: (parameters ++ (taken ++ signature)), by simp, .func ?_ ?_⟩
    · exact Occur.mark hmark (by decide) (hname.mono
        ((List.sublist_append_left taken signature).trans (List.sublist_append_right _ _)))
    · rintro r hr
      cases hr
      exact hreceiver
  · obtain ⟨⟨name, after'⟩, hword, hmore⟩ := Option.bind_eq_some_iff.mp h
    obtain ⟨rest', hfollow, heq⟩ := Option.bind_eq_some_iff.mp hmore
    cases heq
    obtain ⟨taken, rfl, hname⟩ := exists_of_takeWord? hword
    obtain ⟨signature, rfl⟩ := Shape.suffix_of_follow? hfollow
    refine ⟨t :: (taken ++ signature), by simp, .func ?_ (by simp)⟩
    exact Occur.mark hmark (by decide) (hname.mono (List.sublist_append_left taken signature))

theorem reads_of_declItem? (hall : ts <:+ all) (h : declItem? t ts = some (item, rest)) :
    ∃ taken, t :: ts = taken ++ rest ∧ Item.Reads all item t taken := by
  have hvalues (kind : ValueKind) (hmark : t.isMark kind.keyword.toList) (grouped : Bool)
      (specs : List (Event (List Ident)))
      (hspecs : specs? (valueSpec? kind) ts = some (grouped, specs, rest)) :
      ∃ taken, t :: ts = taken ++ rest ∧
        Item.Reads all (.values kind t.start.pos grouped specs) t taken := by
    obtain ⟨taken, rfl, hreads⟩ := reads_of_specs? (isReader_valueSpec? kind) hspecs
    exact ⟨t :: taken, rfl, .values hmark hreads⟩
  unfold declItem? at h
  dsimp only at h
  split_ifs at h with htype hconst hvar hpackage hfunc
  · obtain ⟨⟨grouped, specs, rest'⟩, hspecs, heq⟩ := Option.map_eq_some_iff.mp h
    cases heq
    obtain ⟨taken, rfl, hreads⟩ := reads_of_specs? isReader_typeSpec? hspecs
    exact ⟨t :: taken, rfl, .types htype hreads⟩
  · obtain ⟨⟨grouped, specs, rest'⟩, hspecs, heq⟩ := Option.map_eq_some_iff.mp h
    cases heq
    exact hvalues .const hconst grouped specs hspecs
  · obtain ⟨⟨grouped, specs, rest'⟩, hspecs, heq⟩ := Option.map_eq_some_iff.mp h
    cases heq
    exact hvalues .var hvar grouped specs hspecs
  · exact reads_of_packageItem? hpackage h
  · exact reads_of_funcItem? hall hfunc h

theorem isReader_item? : IsReader all item? (Item.Reads all) := by
  rintro t ts item rest hall - h
  unfold item? at h
  dsimp only at h
  split at h
  · rename_i found hdecl
    cases h
    exact reads_of_declItem? ((List.suffix_cons t ts).trans hall) hdecl
  · obtain ⟨after, hfollow, heq⟩ := Option.map_eq_some_iff.mp h
    cases heq
    obtain ⟨taken, htaken⟩ := Shape.suffix_of_follow? hfollow
    exact ⟨taken, htaken.symm, .other⟩

/-- An outline is read from all tokens of the program. -/
theorem reads_of_outline? {es : List (Event Item)} (h : outline? ts = some es) :
    Event.Reads (Item.Reads ts) es ts := by
  unfold outline? at h
  split at h
  · rename_i events hlist
    cases h
    obtain ⟨taken, hts, hreads⟩ := reads_of_list? isReader_item? List.suffix_rfl hlist
    rw [List.append_nil] at hts
    rwa [← hts] at hreads
  · cases h

end Items

end GoStyle
