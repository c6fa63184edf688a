import GoStyle.Proofs.FileOrder
import GoStyle.Proofs.RuleRuns
import GoStyle.Proofs.TypeDocs

/-!
# Comments on functions

What the rule on comments of functions has to say, function by function (`FileContext.JudgesFunc`).
A function or method that needs a comment is judged by that comment alone
(`FileContext.JudgesFuncDoc`). Which methods need none is a matter of their names, but for the sort
methods: those of a type are exempt if the files of the package declare all of them on the type, and
none of them is otherwise (`SortableIn`). The facts of the package tell the same
(`isSortable_build_iff`), so this is what the runs of the rule find (`Linter.funcDocRule_runs`).
-/

namespace GoStyle

/-! ## Sort methods -/

/-- The names of the methods that make a type sortable. -/
def sortMethodNames : List String :=
  ["Len", "Less", "Swap"]

/-- Whether the files of a package declare all sort methods on a type. -/
def SortableIn (files : List SourceFile) (type : String) : Prop :=
  ∀ name ∈ sortMethodNames, ∃ f ∈ files, ∃ m ∈ f.methods, m.declares type name

theorem isSortMethod_iff (name : String) : isSortMethod name ↔ name ∈ sortMethodNames := by
  simp [isSortMethod, sortMethodNames, or_assoc]

/-- No sort method implements another well-known interface, and all of them are exported. -/
theorem sortMethod_facts {name : String} (h : name ∈ sortMethodNames) :
    isCommonMethod name = false ∧ isExported name := by
  revert h
  revert name
  decide

/-! ## Verdicts on comments -/

namespace FileContext

variable (c : FileContext)

/-- What there is to say about the comment on something with a title and a name. -/
inductive JudgesForm (title name : String) (doc : CommentGroup) : Option Problem → Prop
  | accepted : (name ++ " ").toList <+: doc.text.toList → JudgesForm title name doc none
  | malformed {p} : ¬(name ++ " ").toList <+: doc.text.toList → c.Reports p doc.pos 0.8
      ("comment on exported " ++ title ++ " should be of the form \"" ++ name ++ " ...\"") →
    JudgesForm title name doc (some p)

/-- What there is to say about a function or method that needs a comment. -/
inductive JudgesFuncDoc (f : FuncDecl) (title : String) : Option Problem → Prop
  | missing {p} : f.doc = none → c.Reports p f.pos 1.0
      ("exported " ++ title ++ " should have comment or be unexported") →
    JudgesFuncDoc f title (some p)
  | commented {doc verdict} : f.doc = some doc → c.JudgesForm title f.name.name doc verdict →
    JudgesFuncDoc f title verdict

/-- What there is to say about a function or method, if the types with all sort methods are those
which `sortable` tells. -/
inductive JudgesFunc (sortable : String → Prop) (f : FuncDecl) : Option Problem → Prop
  | unexported : f.name.isExported = false → JudgesFunc sortable f none
  | function {verdict} : f.name.isExported → f.receiver = none →
    c.JudgesFuncDoc f ("function " ++ f.name.name) verdict → JudgesFunc sortable f verdict
  | unnameable : f.isMethod → f.receiverType? = none → JudgesFunc sortable f none
  | ofUnexported {type} : f.receiverType? = some type → isExported type = false →
    JudgesFunc sortable f none
  | common {type} : f.receiverType? = some type → isCommonMethod f.name.name →
    JudgesFunc sortable f none
  | sorting {type} : f.receiverType? = some type → f.name.name ∈ sortMethodNames →
    sortable type → JudgesFunc sortable f none
  | method {type verdict} : f.name.isExported → f.receiverType? = some type → isExported type →
    isCommonMethod f.name.name = false → ¬(f.name.name ∈ sortMethodNames ∧ sortable type) →
    c.JudgesFuncDoc f ("method " ++ type ++ "." ++ f.name.name) verdict →
    JudgesFunc sortable f verdict

variable {c}

theorem judges_form (title name : String) (doc : CommentGroup) {p : Problem}
    (hp : c.Reports p doc.pos 0.8
      ("comment on exported " ++ title ++ " should be of the form \"" ++ name ++ " ...\"")) :
    c.JudgesForm title name doc
      (if beginsWith (name ++ " ") doc.text then none else some p) := by
  unfold beginsWith
  split
  · rename_i h
    exact .accepted (List.isPrefixOf_iff_prefix.mp h)
  · rename_i h
    exact .malformed (mt List.isPrefixOf_iff_prefix.mpr h) hp

theorem judges_titledFuncDoc (c : FileContext) (f : FuncDecl) (title : String) :
    c.JudgesFuncDoc f title (c.titledFuncDoc f title) := by
  unfold titledFuncDoc
  cases hdoc : f.doc with
  | none => exact .missing hdoc ⟨rfl, rfl, rfl, rfl⟩
  | some doc => exact .commented hdoc (judges_form title f.name.name doc ⟨rfl, rfl, rfl, rfl⟩)

/-- The rule has this to say about a function or method, by what the facts of the package tell. -/
theorem judges_funcDoc (c : FileContext) (f : FuncDecl) :
    c.JudgesFunc (fun type => c.package.isSortable type) f (c.funcDoc f) := by
  have hjudged := c.judges_titledFuncDoc f
  unfold funcDoc funcTitle?
  cases hname : f.name.isExported with
  | false => exact .unexported hname
  | true =>
    rcases hreceiver : f.receiver with _ | ⟨name, _ | type⟩
    · exact .function hname hreceiver (hjudged _)
    · exact .unnameable (by rw [FuncDecl.isMethod, hreceiver]; rfl)
        (by rw [FuncDecl.receiverType?, hreceiver]; rfl)
    · have htype : f.receiverType? = some type := by rw [FuncDecl.receiverType?, hreceiver]; rfl
      dsimp only
      split_ifs with hno hskip hsort
      · cases hno
      · rcases Bool.or_eq_true_iff.mp hskip with hhidden | hcommon
        · exact .ofUnexported htype (by simpa using hhidden)
        · exact .common htype hcommon
      · obtain ⟨hmethod, hsortable⟩ := Bool.and_eq_true_iff.mp hsort
        exact .sorting htype ((isSortMethod_iff _).mp hmethod) hsortable
      · simp only [Bool.or_eq_true, Bool.not_eq_true', not_or, Bool.not_eq_false,
          Bool.not_eq_true] at hskip
        refine .method hname htype hskip.1 hskip.2 (fun ⟨hmethod, hsortable⟩ => hsort ?_)
          (hjudged _)
        exact Bool.and_eq_true_iff.mpr ⟨(isSortMethod_iff _).mpr hmethod, hsortable⟩

/-- A sort method on an exported type is judged as any other method or not at all, as the type has
all sort methods or not. -/
theorem JudgesFunc.of_sortMethod {sortable : String → Prop} {f : FuncDecl} {type : String}
    {verdict : Option Problem} (h : c.JudgesFunc sortable f verdict)
    (htype : f.receiverType? = some type) (hexported : isExported type)
    (hname : f.name.name ∈ sortMethodNames) : (sortable type → verdict = none) ∧
      (¬sortable type → c.JudgesFuncDoc f ("method " ++ type ++ "." ++ f.name.name) verdict) := by
  obtain ⟨hcommon, hnameExported⟩ := sortMethod_facts hname
  cases h with
  | unexported hno =>
    rw [Ident.isExported, hnameExported] at hno
    cases hno
  | function _ hreceiver =>
    rw [FuncDecl.receiverType?, hreceiver] at htype
    cases htype
  | unnameable _ hno =>
    rw [hno] at htype
    cases htype
  | ofUnexported htype' hno =>
    obtain rfl := Option.some.inj (htype.symm.trans htype')
    rw [hno] at hexported
    cases hexported
  | common _ hyes =>
    rw [hcommon] at hyes
    cases hyes
  | sorting htype' _ hsortable =>
    obtain rfl := Option.some.inj (htype.symm.trans htype')
    exact ⟨fun _ => rfl, fun hno => absurd hsortable hno⟩
  | method _ htype' _ _ hno hjudged =>
    obtain rfl := Option.some.inj (htype.symm.trans htype')
    exact ⟨fun hsortable => absurd ⟨hname, hsortable⟩ hno, fun _ => hjudged⟩

/-- Nothing is said about a method of a type that cannot be named. -/
theorem JudgesFunc.of_unnameable {sortable : String → Prop} {f : FuncDecl}
    {verdict : Option Problem} (h : c.JudgesFunc sortable f verdict) (hmethod : f.isMethod)
    (hnone : f.receiverType? = none) : verdict = none := by
  cases h with
  | unexported | unnameable | ofUnexported | common | sorting => rfl
  | function _ hreceiver =>
    rw [FuncDecl.isMethod, hreceiver] at hmethod
    cases hmethod
  | method _ htype =>
    rw [hnone] at htype
    cases htype

end FileContext

/-! ## Runs -/

/-- What the runs of the rule find: one verdict on each function and method, in order. A type is
sortable, as the facts of the package tell it, if the files declare all sort methods on it. If they
do, nothing is said about its sort methods; if not, these are judged by their comments. A method of
a type that cannot be named makes no type sortable, and nothing is said about it. -/
theorem Linter.funcDocRule_runs (l : Linter) (files : List SourceFile)
    (hrules : ∀ r ∈ l.rules, r ∈ defaultRules) :
    (∀ type, (PackageContext.build files l.policy).isSortable type ↔ SortableIn files type) ∧
    ∃ verdicts : FileContext → List (Option Problem),
      (l.runs files).filter (·.rule == funcDocRule.name) =
        l.runsOf files funcDocRule (fun c => (verdicts c).reduceOption) ∧
      ∀ c ∈ l.contexts files, List.Forall₂ (fun f verdict =>
          c.JudgesFunc (SortableIn files) f verdict ∧
          (∀ type, f.receiverType? = some type → isExported type →
            f.name.name ∈ sortMethodNames → (SortableIn files type → verdict = none) ∧
              (¬SortableIn files type →
                c.JudgesFuncDoc f ("method " ++ type ++ "." ++ f.name.name) verdict)) ∧
          (f.isMethod → f.receiverType? = none →
            (∀ type name, f.declares type name = false) ∧ verdict = none))
        c.file.funcs (verdicts c) := by
  have hsortable := isSortable_build_iff files l.policy
  refine ⟨hsortable, fun c => c.file.funcs.map c.funcDoc, ?_, fun c hc => ?_⟩
  · refine l.filter_runs_eq_runsOf files hrules (by simp [defaultRules]) (by decide) fun c _ => ?_
    rw [List.reduceOption, List.filterMap_map]
    rfl
  · rw [List.forall₂_map_right_iff, List.forall₂_same]
    intro f _
    have hjudged : c.JudgesFunc (SortableIn files) f (c.funcDoc f) := by
      have hfacts : (fun type => c.package.isSortable type = true) = SortableIn files := by
        funext type
        rw [(Linter.mem_contexts.mp hc).2.1]
        exact propext (hsortable type)
      rw [← hfacts]
      exact c.judges_funcDoc f
    refine ⟨hjudged, fun type htype hexported hname => hjudged.of_sortMethod htype hexported hname,
      fun hmethod hnone => ⟨fun type name => ?_, hjudged.of_unnameable hmethod hnone⟩⟩
    rw [FuncDecl.declares, hnone]
    rfl

/-- The sort methods of a type in three files, one of them a test file, without comments. -/
def sortFiles : List SourceFile :=
  [methodFile "a.go" "t" "Len", methodFile "b_test.go" "u" "Less", methodFile "c.go" "t" "Swap"]

/-- Nothing is said about the sort methods of a type that has all of them. -/
theorem funcDocRule_runs_sortFiles :
    (∀ r ∈ [funcDocRule], r ∈ defaultRules) ∧ SortableIn sortFiles "T" ∧
    ∃ verdicts : FileContext → List (Option Problem),
      ((Linter.ofRules [funcDocRule]).runs sortFiles).filter (·.rule == funcDocRule.name) =
        (Linter.ofRules [funcDocRule]).runsOf sortFiles funcDocRule
          (fun c => (verdicts c).reduceOption) ∧
      ∀ c ∈ (Linter.ofRules [funcDocRule]).contexts sortFiles, verdicts c = [none] := by
  have hrules : ∀ r ∈ [funcDocRule], r ∈ defaultRules := by simp [defaultRules]
  obtain ⟨hfacts, verdicts, hruns, hverdicts⟩ :=
    Linter.funcDocRule_runs (Linter.ofRules [funcDocRule]) sortFiles hrules
  have hsortable := (hfacts "T").mp (by decide)
  refine ⟨hrules, hsortable, verdicts, hruns, fun c hc => ?_⟩
  obtain ⟨receiver, path, name, hname, hfile⟩ : ∃ receiver path name, name ∈ sortMethodNames ∧
      c.file = methodFile path receiver name := by
    have hmem := Linter.file_mem_of_mem_contexts hc
    simp only [sortFiles, List.mem_cons, List.not_mem_nil, or_false] at hmem
    rcases hmem with hfile | hfile | hfile
    · exact ⟨_, _, _, by decide, hfile⟩
    · exact ⟨_, _, _, by decide, hfile⟩
    · exact ⟨_, _, _, by decide, hfile⟩
  have hjudged := hverdicts c hc
  rw [hfile] at hjudged
  obtain ⟨verdict, rest, ⟨-, hsorting, -⟩, hrest, hverdict⟩ := List.forall₂_cons_left_iff.mp hjudged
  rw [hverdict, List.forall₂_nil_left_iff.mp hrest,
    (hsorting "T" rfl (by decide) hname).1 hsortable]

end GoStyle
