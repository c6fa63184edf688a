import Mathlib.Data.List.ReduceOption
import GoStyle.Proofs.FileOrder
import GoStyle.Proofs.RuleRuns

/-!
# Receiver names

What the rule on receiver names has to say, method by method (`FileContext.JudgesReceiver`). A name
that is not `_`, `this` or `self` is eligible, and the methods of a type should have the eligible
name that the first of them has. The facts of the package hold that name (`receiverName?_build`); as
far as a method with an eligible name is concerned it is its own name or that of an earlier method
(`receiverName?_build_of_eligible`), whether in its file or in a file before it. So a method is
reported if an earlier one uses another name, and only then (`Linter.receiverNamesRule_runs`).
-/

namespace GoStyle

/-! ## Eligible names -/

/-- The names that say nothing about the type of a receiver. -/
def ineligibleNames : List String :=
  ["_", "this", "self"]

/-- The receiver name of a method on a type, if it is eligible. -/
def FuncDecl.eligibleName? (f : FuncDecl) (type : String) : Option String :=
  if f.receiverType? = some type then f.receiverName?.filter (· ∉ ineligibleNames) else none

/-- The eligible name that the first of some methods on a type has. -/
def firstEligible? (methods : List FuncDecl) (type : String) : Option String :=
  methods.findSome? (·.eligibleName? type)

theorem isEligibleReceiver_eq (name : String) :
    isEligibleReceiver name = decide (name ∉ ineligibleNames) := by
  rw [Bool.eq_iff_iff]
  simp [isEligibleReceiver, isGenericReceiver, ineligibleNames]

/-- What the facts of a package know of a type's receiver name when one more method is taken in. -/
theorem receiverName?_addMethod (c : PackageContext) (f : FuncDecl) (type : String) :
    (c.addMethod f).receiverName? type = (c.receiverName? type).or (f.eligibleName? type) := by
  unfold PackageContext.addMethod FuncDecl.eligibleName? PackageContext.receiverName?
  cases f.receiverType? with
  | none => simp
  | some t =>
    cases f.receiverName? with
    | none => simp
    | some name =>
      dsimp only
      rw [isEligibleReceiver_eq]
      by_cases hname : name ∈ ineligibleNames
      · simp [Option.filter, hname]
      · by_cases ht : t = type
        · subst ht
          cases hknown : c.receiverNames.lookup t with
          | none => simp [Option.filter, hknown, hname, List.lookup_append]
          | some previous => simp [hknown]
        · have hother : (type == t) = false := beq_eq_false_iff_ne.mpr (Ne.symm ht)
          cases hknown : c.receiverNames.lookup t with
          | none => simp [hname, ht, hother, List.lookup_append, List.lookup_cons]
          | some previous => simp [ht]

theorem receiverName?_foldl_addMethod (type : String) :
    ∀ (methods : List FuncDecl) (c : PackageContext),
      (methods.foldl PackageContext.addMethod c).receiverName? type =
        (c.receiverName? type).or (firstEligible? methods type)
  | [], _ => by simp [firstEligible?]
  | m :: methods, c => by
    rw [List.foldl_cons, receiverName?_foldl_addMethod type methods, receiverName?_addMethod,
      Option.or_assoc, firstEligible?, firstEligible?, List.findSome?_cons]
    cases m.eligibleName? type <;> rfl

theorem receiverName?_foldl_addFile (policy : Policy) (type : String) :
    ∀ (files : List SourceFile) (c : PackageContext),
      (files.foldl (PackageContext.addFile policy) c).receiverName? type =
        (c.receiverName? type).or (firstEligible? (files.flatMap SourceFile.methods) type)
  | [], _ => by simp [firstEligible?]
  | f :: files, c => by
    rw [List.foldl_cons, receiverName?_foldl_addFile policy type files, PackageContext.addFile,
      receiverName?_foldl_addMethod, Option.or_assoc, firstEligible?, firstEligible?,
      firstEligible?, List.flatMap_cons, List.findSome?_append]
    rfl

/-- The receiver name for a type is the first eligible one, in the order of files and methods. -/
theorem receiverName?_build (files : List SourceFile) (policy : Policy) (type : String) :
    (PackageContext.build files policy).receiverName? type =
      firstEligible? (files.flatMap SourceFile.methods) type := by
  rw [PackageContext.build, receiverName?_foldl_addFile]
  rfl

/-! ## Earlier methods -/

/-- The methods declared in the files before a file and by its first `n` functions. -/
def methodsBefore (files : List SourceFile) (c : FileContext) (n : ℕ) : List FuncDecl :=
  (files.take c.index).flatMap SourceFile.methods ++ (c.file.funcs.take n).filter (·.isMethod)

section Earlier

variable {l : Linter} {files : List SourceFile} {c : FileContext} {n : ℕ} {f : FuncDecl}

/-- The methods before a method and that method are the beginning of all methods. -/
theorem methodsBefore_concat_prefix (hc : c ∈ l.contexts files) (hf : c.file.funcs[n]? = some f)
    (hmethod : f.isMethod) :
    methodsBefore files c n ++ [f] <+: files.flatMap SourceFile.methods := by
  have hfile : (c.file.funcs.take n).filter (·.isMethod) ++ [f] <+: c.file.methods := by
    have htake : c.file.funcs.take n ++ [f] <+: c.file.funcs := by
      have hnext := List.take_prefix (n + 1) c.file.funcs
      rwa [List.take_add_one, hf] at hnext
    have hfilter := htake.filter (·.isMethod)
    rwa [List.filter_append, List.filter_singleton, hmethod] at hfilter
  have hfiles : files.take c.index ++ [c.file] <+: files := by
    have hnext := List.take_prefix (c.index + 1) files
    rwa [List.take_add_one, (Linter.mem_contexts.mp hc).1] at hnext
  obtain ⟨rest, hall⟩ := hfiles
  have hmethods := congrArg (List.flatMap SourceFile.methods) hall
  rw [List.flatMap_append, List.flatMap_append, List.flatMap_singleton] at hmethods
  rw [← hmethods, methodsBefore, List.append_assoc, List.append_assoc]
  exact (List.prefix_append_right_inj _).mpr (hfile.trans (List.prefix_append _ _))

/-- A method with an eligible name is compared with the first eligible name among the methods before
it, or else with its own. -/
theorem receiverName?_build_of_eligible (hc : c ∈ l.contexts files)
    (hf : c.file.funcs[n]? = some f) (hmethod : f.isMethod) {type name : String}
    (hname : f.eligibleName? type = some name) : c.package.receiverName? type =
      (firstEligible? (methodsBefore files c n) type).or (some name) := by
  obtain ⟨rest, hall⟩ := methodsBefore_concat_prefix hc hf hmethod
  rw [(Linter.mem_contexts.mp hc).2.1, receiverName?_build, ← hall, firstEligible?,
    List.findSome?_append, List.findSome?_append, List.findSome?_singleton, hname, firstEligible?]
  cases (methodsBefore files c n).findSome? (·.eligibleName? type) <;> rfl

end Earlier

/-! ## Verdicts -/

namespace FileContext

variable (c : FileContext)

/-- A problem with a name, with the given text, at a point of the file. -/
structure ReportsName (p : Problem) (pos : Pos) (text : String) : Prop where
  position : p.position = ⟨c.file.path, pos.line, pos.column, pos.offset⟩
  category : p.category = namingCategory
  confidence : p.confidence = 1.0
  text : p.text = text

/-- What there is to say about the receiver of a function, `earlier` being the methods before it. -/
inductive JudgesReceiver (earlier : List FuncDecl) (f : FuncDecl) : Option Problem → Prop
  | unnamed : f.receiverName? = none → JudgesReceiver earlier f none
  | underscore {p} : f.receiverName? = some "_" → c.ReportsName p f.pos
      "receiver name should not be an underscore, omit the name if it is unused" →
    JudgesReceiver earlier f (some p)
  | generic {name p} : f.receiverName? = some name → name ∈ ["this", "self"] →
    c.ReportsName p f.pos ("receiver name should be a reflection of its identity; " ++
      "don't use generic names such as \"this\" or \"self\"") →
    JudgesReceiver earlier f (some p)
  | unnameable {name} : f.receiverName? = some name → name ∉ ineligibleNames →
    f.receiverType? = none → JudgesReceiver earlier f none
  | consistent {type name} : f.eligibleName? type = some name →
    (∀ previous ∈ firstEligible? earlier type, previous = name) → JudgesReceiver earlier f none
  | inconsistent {type name previous p} : f.eligibleName? type = some name →
    firstEligible? earlier type = some previous → previous ≠ name →
    c.ReportsName p f.pos ("receiver name " ++ name ++
      " should be consistent with previous receiver name " ++ previous ++ " for " ++ type) →
    JudgesReceiver earlier f (some p)

variable {c} {files : List SourceFile} {f : FuncDecl} {type name : String}

theorem eligibleName?_eq_some_iff : f.eligibleName? type = some name ↔
    f.receiverType? = some type ∧ f.receiverName? = some name ∧ name ∉ ineligibleNames := by
  unfold FuncDecl.eligibleName?
  split
  · rename_i htype
    simp [Option.filter_eq_some_iff, htype]
  · rename_i htype
    simp [htype]

theorem isMethod_of_receiverType? (h : f.receiverType? = some type) : f.isMethod := by
  obtain ⟨r, hr, -⟩ := Option.bind_eq_some_iff.mp h
  rw [FuncDecl.isMethod, hr]
  rfl

/-- The rule has this to say about the receiver of a function. -/
theorem judges_receiverName {l : Linter} {n : ℕ} (hc : c ∈ l.contexts files)
    (hf : c.file.funcs[n]? = some f) :
    c.JudgesReceiver (methodsBefore files c n) f (c.receiverName f) := by
  unfold receiverName PackageContext.receiverFault?
  cases hname : f.receiverName? with
  | none => exact .unnamed hname
  | some name =>
    rw [Option.bind_some]
    split_ifs with hblank hgeneric
    · exact .underscore (hblank ▸ hname) ⟨rfl, rfl, rfl, rfl⟩
    · exact .generic hname (by simpa [isGenericReceiver] using hgeneric) ⟨rfl, rfl, rfl, rfl⟩
    · have heligible : name ∉ ineligibleNames := by
        simpa [ineligibleNames, isGenericReceiver, hblank] using hgeneric
      cases htype : f.receiverType? with
      | none => exact .unnameable hname heligible htype
      | some type =>
        have hown := eligibleName?_eq_some_iff.mpr ⟨htype, hname, heligible⟩
        dsimp only
        rw [receiverName?_build_of_eligible hc hf (isMethod_of_receiverType? htype) hown]
        cases hfirst : firstEligible? (methodsBefore files c n) type with
        | none =>
          rw [Option.none_or]
          dsimp only
          rw [if_pos rfl]
          exact .consistent hown (by simp [hfirst])
        | some previous =>
          rw [Option.some_or]
          dsimp only
          split_ifs with hsame
          · exact .consistent hown (by simp [hfirst, hsame])
          · exact .inconsistent hown hfirst hsame ⟨rfl, rfl, rfl, rfl⟩

/-- A method with an eligible name is reported exactly if an earlier method has another one. -/
theorem JudgesReceiver.ne_none_iff {earlier : List FuncDecl} {verdict : Option Problem}
    (h : c.JudgesReceiver earlier f verdict) (hname : f.eligibleName? type = some name) :
    verdict ≠ none ↔ ∃ previous, firstEligible? earlier type = some previous ∧ previous ≠ name := by
  obtain ⟨htype, hown, heligible⟩ := eligibleName?_eq_some_iff.mp hname
  cases h with
  | unnamed hno =>
    rw [hno] at hown
    cases hown
  | underscore hblank =>
    rw [hblank] at hown
    exact absurd (Option.some.inj hown ▸ by decide) heligible
  | generic hname' hgeneric =>
    obtain rfl := Option.some.inj (hown.symm.trans hname')
    exact absurd (List.mem_cons_of_mem _ hgeneric) heligible
  | unnameable _ _ hno =>
    rw [hno] at htype
    cases htype
  | consistent hname' hsame =>
    obtain ⟨htype', hown', -⟩ := eligibleName?_eq_some_iff.mp hname'
    obtain rfl := Option.some.inj (htype.symm.trans htype')
    obtain rfl := Option.some.inj (hown.symm.trans hown')
    exact iff_of_false (by simp) fun ⟨previous, hfirst, hne⟩ => hne (hsame previous hfirst)
  | inconsistent hname' hfirst hne =>
    obtain ⟨htype', hown', -⟩ := eligibleName?_eq_some_iff.mp hname'
    obtain rfl := Option.some.inj (htype.symm.trans htype')
    obtain rfl := Option.some.inj (hown.symm.trans hown')
    exact iff_of_true (by simp) ⟨_, hfirst, hne⟩

end FileContext

/-! ## Runs -/

/-- What the runs of the rule find: one verdict on the receiver of each function, in order, by the
methods before it. Those reported for a type are told the first eligible name on it, and none is if
all eligible names on it are equal. -/
theorem Linter.receiverNamesRule_runs (l : Linter) (files : List SourceFile)
    (hrules : ∀ r ∈ l.rules, r ∈ defaultRules) :
    ∃ verdicts : FileContext → List (Option Problem),
      (l.runs files).filter (·.rule == receiverNamesRule.name) =
        l.runsOf files receiverNamesRule (fun c => (verdicts c).reduceOption) ∧
      ∀ c ∈ l.contexts files, List.Forall₂ (fun (f, n) verdict =>
          c.JudgesReceiver (methodsBefore files c n) f verdict ∧
          (f.isMethod → methodsBefore files c n ++ [f] <+: files.flatMap SourceFile.methods) ∧
          ∀ type name, f.eligibleName? type = some name →
            (verdict ≠ none ↔ ∃ previous,
              firstEligible? (methodsBefore files c n) type = some previous ∧ previous ≠ name) ∧
            (∀ previous, firstEligible? (methodsBefore files c n) type = some previous →
              firstEligible? (files.flatMap SourceFile.methods) type = some previous) ∧
            ((∀ m ∈ files.flatMap SourceFile.methods, ∀ other ∈ m.eligibleName? type,
              other = name) → verdict = none))
        c.file.funcs.zipIdx (verdicts c) := by
  refine ⟨fun c => c.file.funcs.map c.receiverName, ?_, fun c hc => ?_⟩
  · refine l.filter_runs_eq_runsOf files hrules (by simp [defaultRules]) (by decide) fun c _ => ?_
    rw [List.reduceOption, List.filterMap_map]
    rfl
  · have hnumbered : c.file.funcs.map c.receiverName =
        c.file.funcs.zipIdx.map fun fn => c.receiverName fn.1 := by
      conv_lhs => rw [← List.zipIdx_map_fst 0 c.file.funcs, List.map_map]
      rfl
    change List.Forall₂ _ _ (c.file.funcs.map c.receiverName)
    rw [hnumbered, List.forall₂_map_right_iff, List.forall₂_same]
    rintro ⟨f, n⟩ hmem
    have hf : c.file.funcs[n]? = some f := List.mk_mem_zipIdx_iff_getElem?.mp hmem
    have hjudged := FileContext.judges_receiverName hc hf
    refine ⟨hjudged, methodsBefore_concat_prefix hc hf, fun type name hname => ?_⟩
    have hreported := hjudged.ne_none_iff hname
    obtain ⟨rest, hall⟩ := methodsBefore_concat_prefix hc hf
      (FileContext.isMethod_of_receiverType? (FileContext.eligibleName?_eq_some_iff.mp hname).1)
    refine ⟨hreported, fun previous hfirst => ?_, fun hequal => ?_⟩
    · rw [firstEligible?] at hfirst ⊢
      rw [← hall, List.append_assoc, List.findSome?_append, hfirst, Option.some_or]
    · by_contra hverdict
      obtain ⟨previous, hfirst, hne⟩ := hreported.mp hverdict
      obtain ⟨m, hm, hprevious⟩ := List.exists_of_findSome?_eq_some hfirst
      refine hne (hequal m ?_ previous hprevious)
      rw [← hall]
      exact List.mem_append_left _ (List.mem_append_left _ hm)

/-- Methods on a type in three files: the first names its receiver `self`, the second is generated
and names it `g`, the third names it `t`. -/
def receiverFiles : List SourceFile :=
  [methodFile "a.go" "self" "A",
    { methodFile "b.go" "g" "B" with
      leadingComments := [⟨Pos.start, 1, "Made.\n", ["// Made."]⟩] },
    methodFile "c.go" "t" "C"]

/-- A linter with the rule on receiver names, for which any comment line marks a file as generated.
-/
def receiverLinter : Linter :=
  { strictLinter with rules := [receiverNamesRule] }

/-- The name in the generated file is the one to keep. -/
theorem receiverNamesRule_runs_receiverFiles :
    (∀ r ∈ receiverLinter.rules, r ∈ defaultRules) ∧
    ∃ verdicts : FileContext → List (Option Problem),
      (receiverLinter.runs receiverFiles).filter (·.rule == receiverNamesRule.name) =
        receiverLinter.runsOf receiverFiles receiverNamesRule
          (fun c => (verdicts c).reduceOption) ∧
      ∃ c ∈ receiverLinter.contexts receiverFiles, c.isGenerated = false ∧
        ∃ p, verdicts c = [some p] := by
  have hrules : ∀ r ∈ receiverLinter.rules, r ∈ defaultRules := by
    simp [receiverLinter, defaultRules]
  obtain ⟨verdicts, hruns, hverdicts⟩ :=
    Linter.receiverNamesRule_runs receiverLinter receiverFiles hrules
  let c : FileContext := ⟨methodFile "c.go" "t" "C", 2,
    PackageContext.build receiverFiles receiverLinter.policy, receiverLinter.policy⟩
  have hc : c ∈ receiverLinter.contexts receiverFiles := Linter.mem_contexts.mpr ⟨rfl, rfl, rfl⟩
  refine ⟨hrules, verdicts, hruns, c, hc, by decide, ?_⟩
  obtain ⟨verdict, rest, ⟨-, -, htold⟩, hrest, hverdict⟩ :=
    List.forall₂_cons_left_iff.mp (hverdicts c hc)
  obtain ⟨hreported, -, -⟩ := htold "T" "t" (by decide)
  obtain ⟨p, rfl⟩ := Option.ne_none_iff_exists'.mp (hreported.mpr ⟨"g", by decide, by decide⟩)
  exact ⟨p, by rw [hverdict, List.forall₂_nil_left_iff.mp hrest]⟩

end GoStyle
