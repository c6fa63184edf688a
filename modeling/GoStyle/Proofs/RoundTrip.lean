import GoStyle.Lint.Record
import GoStyle.Proofs.FiniteDoubles

/-!
# Restoring reports

A report that is written as data and read again is the same report (`Report.json_roundTrip`), as far
as its numbers fit into the words and doubles that they are kept in. What is read fits, so writing
and reading it again changes nothing any more, whatever has been left out of the data or stood in it
besides. `Restores` says both of a way to write and to read, and it passes from the parts of a
record to the record.
-/

namespace GoStyle

/-! ## Numbers in data -/

mutual
/-- Whether all numbers in a value are within the range of doubles, as they are in all data. -/
def Json.inRange : Json → Bool
  | .null | .bool _ | .str _ => true
  | .int n => n.natAbs ≤ largestDouble
  | .float x => x.isFinite
  | .arr items => Json.inRangeItems items
  | .obj members => Json.inRangeMembers members

/-- Whether all numbers in the items of an array are within the range. -/
def Json.inRangeItems : List Json → Bool
  | [] => true
  | v :: vs => v.inRange && Json.inRangeItems vs

/-- Whether all numbers in the members of an object are within the range. -/
def Json.inRangeMembers : List (String × Json) → Bool
  | [] => true
  | (_, v) :: ms => v.inRange && Json.inRangeMembers ms
end

namespace Json

theorem inRange_of_mem {v : Json} :
    ∀ {items : List Json}, inRangeItems items → v ∈ items → v.inRange
  | [], _, h => nomatch h
  | u :: us, hrange, h => by
    rw [inRangeItems, Bool.and_eq_true] at hrange
    rcases List.mem_cons.mp h with rfl | h
    · exact hrange.1
    · exact inRange_of_mem hrange.2 h

theorem inRange_of_member? {name : String} {v : Json} :
    ∀ {ms : List (String × Json)}, inRangeMembers ms → member? name ms = some v → v.inRange
  | [], _, h => nomatch h
  | (n, u) :: ms, hrange, h => by
    rw [inRangeMembers, Bool.and_eq_true] at hrange
    rw [member?] at h
    split_ifs at h
    · obtain rfl := Option.some.inj h
      exact hrange.1
    · exact inRange_of_member? hrange.2 h

/-- The numbers in the fields of a record are numbers in the record. -/
theorem inRange_of_fields? {v : Json} {names : List String} {fields : List (Option Json)}
    (hrange : v.inRange) (h : v.fields? names = some fields) :
    ∀ field ∈ fields, ∀ u ∈ field, u.inRange := by
  rintro _ hfield u rfl
  cases v with
  | obj members =>
    obtain rfl := Option.some.inj h
    obtain ⟨name, -, hname⟩ := List.mem_map.mp hfield
    exact inRange_of_member? hrange hname
  | arr items =>
    rw [fields?] at h
    split_ifs at h
    obtain rfl := Option.some.inj h
    rcases List.mem_append.mp hfield with hitem | hmissing
    · obtain ⟨w, hw, hwu⟩ := List.mem_map.mp hitem
      obtain rfl := Option.some.inj hwu
      exact inRange_of_mem hrange hw
    · cases List.eq_of_mem_replicate hmissing
  | _ => cases h

end Json

/-! ## Restoring -/

/-- Whether reading restores what is written, if it fits, and what is read fits. -/
structure Restores {α : Type} (Fits : α → Prop) (write : α → Json) (read : Json → Option α) :
    Prop where
  read_write : ∀ a, Fits a → read (write a) = some a
  fits : ∀ v a, v.inRange → read v = some a → Fits a

namespace Restores

variable {α : Type} {Fits : α → Prop} {write : α → Json} {read : Json → Option α}

/-- What has been read once is restored. -/
theorem read_again (h : Restores Fits write read) {v : Json} {a : α} (hrange : v.inRange)
    (hread : read v = some a) : Fits a ∧ read (write a) = some a :=
  ⟨h.fits v a hrange hread, h.read_write a (h.fits v a hrange hread)⟩

theorem required_write (h : Restores Fits write read) {a : α} (ha : Fits a) :
    required read (some (write a)) = some a :=
  h.read_write a ha

theorem defaulted_write (h : Restores Fits write read) {default a : α} (ha : Fits a) :
    defaulted default read (some (write a)) = some a :=
  h.read_write a ha

theorem fits_required (h : Restores Fits write read) {field : Option Json} {a : α}
    (hrange : ∀ u ∈ field, u.inRange) (hread : required read field = some a) : Fits a := by
  obtain ⟨u, hu, hread⟩ := Option.bind_eq_some_iff.mp hread
  exact h.fits u a (hrange u hu) hread

theorem fits_defaulted (h : Restores Fits write read) {default : α} (hdefault : Fits default)
    {field : Option Json} {a : α} (hrange : ∀ u ∈ field, u.inRange)
    (hread : defaulted default read field = some a) : Fits a := by
  cases field with
  | none =>
    obtain rfl := Option.some.inj hread
    exact hdefault
  | some u => exact h.fits u a (hrange u rfl) hread

theorem mapM_map_write (h : Restores Fits write read) :
    ∀ {as : List α}, (∀ a ∈ as, Fits a) → (as.map write).mapM read = some as
  | [], _ => rfl
  | a :: as, has => by
    rw [List.map_cons, List.mapM_cons, h.read_write a (has a List.mem_cons_self),
      h.mapM_map_write fun b hb => has b (List.mem_cons_of_mem a hb)]
    rfl

theorem fits_of_mapM (h : Restores Fits write read) : ∀ {vs : List Json} {as : List α},
    (∀ v ∈ vs, v.inRange) → vs.mapM read = some as → ∀ a ∈ as, Fits a
  | [], as, _, hread => by
    obtain rfl := Option.some.inj hread
    exact fun a ha => nomatch ha
  | v :: vs, as, hrange, hread => by
    rw [List.mapM_cons] at hread
    obtain ⟨b, hb, hrest⟩ := Option.bind_eq_some_iff.mp hread
    obtain ⟨bs, hbs, has⟩ := Option.bind_eq_some_iff.mp hrest
    obtain rfl := Option.some.inj has
    refine List.forall_mem_cons.mpr ⟨h.fits v b (hrange v List.mem_cons_self) hb, ?_⟩
    exact h.fits_of_mapM (fun u hu => hrange u (List.mem_cons_of_mem v hu)) hbs

/-- A list is restored by its items. -/
theorem list (h : Restores Fits write read) :
    Restores (fun as => ∀ a ∈ as, Fits a) (fun as => .arr (as.map write))
      (fun v => v.items? >>= (·.mapM read)) := by
  refine ⟨fun as has => h.mapM_map_write has, fun v as hrange hread => ?_⟩
  obtain ⟨items, hitems, hmapM⟩ := Option.bind_eq_some_iff.mp hread
  cases v with
  | arr vs =>
    obtain rfl := Option.some.inj hitems
    exact h.fits_of_mapM (fun u hu => Json.inRange_of_mem hrange hu) hmapM
  | _ => cases hitems

end Restores

theorem restores_word : Restores (· < twoTo 64) (fun n => .int n) Json.word? := by
  refine ⟨fun n hn => ?_, fun v n _ hread => ?_⟩
  · have hrange : (0 ≤ (n : Int) && (n : Int) < twoTo 64) = true := by simp [hn]
    rw [Json.word?, if_pos hrange, Int.toNat_natCast]
  · cases v with
    | int k =>
      rw [Json.word?] at hread
      split_ifs at hread with hrange
      obtain rfl := Option.some.inj hread
      rw [Bool.and_eq_true, decide_eq_true_iff, decide_eq_true_iff] at hrange
      omega
    | _ => cases hread

theorem restores_double : Restores (·.isFinite) Json.ofDouble Json.double? := by
  refine ⟨fun x hx => ?_, fun v x hrange hread => ?_⟩
  · rw [Json.ofDouble, if_pos hx]
    rfl
  · cases v with
    | int n =>
      obtain rfl := Option.some.inj hread
      exact isFinite_doubleOfInt (of_decide_eq_true hrange)
    | float y =>
      obtain rfl := Option.some.inj hread
      exact hrange
    | _ => cases hread

/-! ## Positions -/

/-- Whether the numbers of a position are words of 64 bits. -/
structure Position.Fits (p : Position) : Prop where
  line : p.line < twoTo 64
  column : p.column < twoTo 64
  offset : p.offset < twoTo 64

/-- A position is read from its fields, of which only the offset may be missing. -/
theorem Position.ofJson?_eq_some_iff {v : Json} {p : Position} :
    Position.ofJson? v = some p ↔ ∃ file line column offset,
      v.fields? ["file", "line", "column", "offset"] = some [file, line, column, offset] ∧
      required Json.str? file = some p.file.text ∧ required Json.word? line = some p.line ∧
      required Json.word? column = some p.column ∧
      defaulted 0 Json.word? offset = some p.offset := by
  unfold Position.ofJson?
  split
  · rename_i file line column offset hfields
    constructor
    · intro h
      simp only [Option.bind_eq_bind, Option.bind_eq_some_iff] at h
      obtain ⟨file', hfile, line', hline, column', hcolumn, offset', hoffset, h⟩ := h
      obtain rfl := Option.some.inj h
      exact ⟨file, line, column, offset, hfields, hfile, hline, hcolumn, hoffset⟩
    · rintro ⟨file', line', column', offset', hfields', hfile, hline, hcolumn, hoffset⟩
      cases hfields.symm.trans hfields'
      rw [hfile, hline, hcolumn, hoffset]
      rfl
  · rename_i hfields
    refine iff_of_false (by simp) ?_
    rintro ⟨file, line, column, offset, h, -⟩
    exact hfields file line column offset h

theorem restores_position : Restores Position.Fits Position.toJson Position.ofJson? := by
  refine ⟨fun p hp => ?_, fun v p hrange hread => ?_⟩
  · exact Position.ofJson?_eq_some_iff.mpr ⟨some (.str p.file.text), some (.int p.line),
      some (.int p.column), some (.int p.offset), rfl, rfl, restores_word.required_write hp.line,
      restores_word.required_write hp.column, restores_word.defaulted_write hp.offset⟩
  · obtain ⟨file, line, column, offset, hfields, -, hline, hcolumn, hoffset⟩ :=
      Position.ofJson?_eq_some_iff.mp hread
    have hparts := Json.inRange_of_fields? hrange hfields
    exact ⟨restores_word.fits_required (hparts line (by simp)) hline,
      restores_word.fits_required (hparts column (by simp)) hcolumn,
      restores_word.fits_defaulted (by decide) (hparts offset (by simp)) hoffset⟩

/-! ## Problems -/

/-- Whether the position of a problem fits and its confidence is finite. -/
structure Problem.Fits (p : Problem) : Prop where
  position : p.position.Fits
  confidence : p.confidence.isFinite

/-- A problem is read from its fields, of which the last four may be missing; two may be null. -/
theorem Problem.ofJson?_eq_some_iff {v : Json} {p : Problem} :
    Problem.ofJson? v = some p ↔
      ∃ position text category confidence link lineText replacement rule,
        v.fields? ["position", "text", "category", "confidence", "link", "line_text",
          "replacement_line", "rule"] =
          some [position, text, category, confidence, link, lineText, replacement, rule] ∧
        required Position.ofJson? position = some p.position ∧
        required Json.str? text = some p.text ∧ required Json.str? category = some p.category ∧
        required Json.double? confidence = some p.confidence ∧
        defaulted none Json.optionalStr? link = some p.link ∧
        defaulted "" Json.str? lineText = some p.lineText ∧
        defaulted none Json.optionalStr? replacement = some p.replacement ∧
        defaulted "" Json.str? rule = some p.rule := by
  unfold Problem.ofJson?
  split
  · rename_i position text category confidence link lineText replacement rule hfields
    constructor
    · intro h
      simp only [Option.bind_eq_bind, Option.bind_eq_some_iff] at h
      obtain ⟨position', hposition, text', htext, category', hcategory, confidence', hconfidence,
        link', hlink, lineText', hlineText, replacement', hreplacement, rule', hrule, h⟩ := h
      obtain rfl := Option.some.inj h
      exact ⟨position, text, category, confidence, link, lineText, replacement, rule, hfields,
        hposition, htext, hcategory, hconfidence, hlink, hlineText, hreplacement, hrule⟩
    · rintro ⟨position', text', category', confidence', link', lineText', replacement', rule',
        hfields', hposition, htext, hcategory, hconfidence, hlink, hlineText, hreplacement, hrule⟩
      cases hfields.symm.trans hfields'
      rw [hposition, htext, hcategory, hconfidence, hlink, hlineText, hreplacement, hrule]
      rfl
  · rename_i hfields
    refine iff_of_false (by simp) ?_
    rintro ⟨position, text, category, confidence, link, lineText, replacement, rule, h, -⟩
    exact hfields position text category confidence link lineText replacement rule h

/-- Whether data shows a problem: by members of different names, among which there are a link and a
replacement only if they are set. -/
structure Problem.ShownIn (p : Problem) (members : List (String × Json)) : Prop where
  toJson_eq : p.toJson = .obj members
  nodup : (members.map Prod.fst).Nodup
  link : Json.member? "link" members = p.link.map .str
  replacement : Json.member? "replacement_line" members = p.replacement.map .str

theorem Problem.exists_shownIn (p : Problem) : ∃ members, p.ShownIn members := by
  refine ⟨_, rfl, ?_, ?_, ?_⟩
  · cases p.link <;> cases p.replacement <;> simp [optionalMember]
  · cases p.link <;> cases p.replacement <;> rfl
  · cases p.link <;> cases p.replacement <;> rfl

theorem Problem.exists_forall₂_shownIn : ∀ ps : List Problem, ∃ shown,
    List.Forall₂ Problem.ShownIn ps shown ∧ ps.map Problem.toJson = shown.map .obj
  | [] => ⟨[], .nil, rfl⟩
  | p :: ps => by
    obtain ⟨members, hmembers⟩ := p.exists_shownIn
    obtain ⟨shown, hshown, heq⟩ := Problem.exists_forall₂_shownIn ps
    refine ⟨members :: shown, .cons hmembers hshown, ?_⟩
    rw [List.map_cons, List.map_cons, hmembers.toJson_eq, heq]

theorem Problem.fields?_toJson (p : Problem) :
    p.toJson.fields? ["position", "text", "category", "confidence", "link", "line_text",
      "replacement_line", "rule"] =
      some [some p.position.toJson, some (.str p.text), some (.str p.category),
        some (Json.ofDouble p.confidence), p.link.map .str, some (.str p.lineText),
        p.replacement.map .str, some (.str p.rule)] := by
  unfold Problem.toJson
  cases p.link <;> cases p.replacement <;> rfl

/-- A string that is written only if it is set is restored. -/
theorem defaulted_optionalStr? (s : Option String) :
    defaulted none Json.optionalStr? (s.map .str) = some s := by
  cases s <;> rfl

theorem restores_problem : Restores Problem.Fits Problem.toJson Problem.ofJson? := by
  refine ⟨fun p hp => ?_, fun v p hrange hread => ?_⟩
  · exact Problem.ofJson?_eq_some_iff.mpr ⟨_, _, _, _, _, _, _, _, p.fields?_toJson,
      restores_position.required_write hp.position, rfl, rfl,
      restores_double.required_write hp.confidence, defaulted_optionalStr? p.link, rfl,
      defaulted_optionalStr? p.replacement, rfl⟩
  · obtain ⟨position, text, category, confidence, link, lineText, replacement, rule, hfields,
      hposition, -, -, hconfidence, -⟩ := Problem.ofJson?_eq_some_iff.mp hread
    have hparts := Json.inRange_of_fields? hrange hfields
    exact ⟨restores_position.fits_required (hparts position (by simp)) hposition,
      restores_double.fits_required (hparts confidence (by simp)) hconfidence⟩

/-! ## Reports -/

/-- Whether the problems of a report fit and the number of files is a word of 64 bits. -/
structure Report.Fits (r : Report) : Prop where
  problems : ∀ p ∈ r.problems, p.Fits
  filesChecked : r.filesChecked < twoTo 64

/-- A report is read from its fields, none of which may be missing. -/
theorem Report.ofJson?_eq_some_iff {v : Json} {r : Report} :
    Report.ofJson? v = some r ↔ ∃ problems filesChecked,
      v.fields? ["problems", "files_checked"] = some [problems, filesChecked] ∧
      required (fun v => v.items? >>= (·.mapM Problem.ofJson?)) problems = some r.problems ∧
      required Json.word? filesChecked = some r.filesChecked := by
  unfold Report.ofJson?
  split
  · rename_i problems filesChecked hfields
    constructor
    · intro h
      simp only [Option.bind_eq_bind, Option.bind_eq_some_iff] at h
      obtain ⟨items, hitems, problems', hproblems, filesChecked', hfilesChecked, h⟩ := h
      obtain rfl := Option.some.inj h
      obtain ⟨u, rfl, hitems⟩ := Option.bind_eq_some_iff.mp hitems
      refine ⟨some u, filesChecked, hfields, ?_, hfilesChecked⟩
      exact Option.bind_eq_some_iff.mpr
        ⟨u, rfl, Option.bind_eq_some_iff.mpr ⟨items, hitems, hproblems⟩⟩
    · rintro ⟨problems', filesChecked', hfields', hproblems, hfilesChecked⟩
      cases hfields.symm.trans hfields'
      obtain ⟨u, rfl, hlist⟩ := Option.bind_eq_some_iff.mp hproblems
      obtain ⟨items, hitems, hmapM⟩ := Option.bind_eq_some_iff.mp hlist
      rw [show required Json.items? (some u) = some items from hitems, hfilesChecked]
      simp only [Option.bind_eq_bind, Option.bind_some, hmapM]
      rfl
  · rename_i hfields
    refine iff_of_false (by simp) ?_
    rintro ⟨problems, filesChecked, h, -⟩
    exact hfields problems filesChecked h

theorem restores_report : Restores Report.Fits Report.toJson Report.ofJson? := by
  refine ⟨fun r hr => ?_, fun v r hrange hread => ?_⟩
  · exact Report.ofJson?_eq_some_iff.mpr ⟨some (.arr (r.problems.map Problem.toJson)),
      some (.int r.filesChecked), rfl, restores_problem.list.required_write hr.problems,
      restores_word.required_write hr.filesChecked⟩
  · obtain ⟨problems, filesChecked, hfields, hproblems, hfilesChecked⟩ :=
      Report.ofJson?_eq_some_iff.mp hread
    have hparts := Json.inRange_of_fields? hrange hfields
    exact ⟨restores_problem.list.fits_required (hparts problems (by simp)) hproblems,
      restores_word.fits_required (hparts filesChecked (by simp)) hfilesChecked⟩

/-- The problems of a report are shown one by one, in their order. -/
theorem Report.exists_shownIn (r : Report) :
    ∃ shown, List.Forall₂ Problem.ShownIn r.problems shown ∧ r.toJson =
      .obj [("problems", .arr (shown.map .obj)), ("files_checked", .int r.filesChecked)] := by
  obtain ⟨shown, hshown, heq⟩ := Problem.exists_forall₂_shownIn r.problems
  exact ⟨shown, hshown, by rw [Report.toJson, heq]⟩

/-- Problems and reports are restored from data. The data shows links and replacements exactly where
they are set. Data of any form that has a problem or a report in it has one that fits, and so
writing and reading that again gives the same. -/
theorem Report.json_roundTrip :
    (∀ p : Problem, p.Fits → Problem.ofJson? p.toJson = some p) ∧
    (∀ r : Report, r.Fits → Report.ofJson? r.toJson = some r) ∧
    (∀ r : Report, ∃ shown, List.Forall₂ Problem.ShownIn r.problems shown ∧ r.toJson =
      .obj [("problems", .arr (shown.map .obj)), ("files_checked", .int r.filesChecked)]) ∧
    (∀ (v : Json) (p : Problem), v.inRange → Problem.ofJson? v = some p →
      p.Fits ∧ Problem.ofJson? p.toJson = some p) ∧
    (∀ (v : Json) (r : Report), v.inRange → Report.ofJson? v = some r →
      r.Fits ∧ Report.ofJson? r.toJson = some r) :=
  ⟨restores_problem.read_write, restores_report.read_write, Report.exists_shownIn,
    fun _ _ => restores_problem.read_again, fun _ _ => restores_report.read_again⟩

/-- Data of a problem with members in another order, a null, an unknown member, a confidence without
a fraction, and a position as an array that ends early. -/
def looseProblem : Json :=
  .obj [("rule", .str "naming"), ("link", .null), ("confidence", .int 1), ("seen", .bool true),
    ("category", .str "naming"), ("text", .str "don't use an underscore"),
    ("position", .arr [.str "./b/../a.go", .int 3, .int 5])]

/-- What `looseProblem` is read as. -/
def strictProblem : Problem :=
  { position := ⟨⟨"./b/../a.go"⟩, 3, 5, 0⟩, text := "don't use an underscore", category := "naming",
    confidence := doubleOfInt 1, link := none, lineText := "", replacement := none,
    rule := "naming" }

/-- Data of a report as an array, with `looseProblem` and another problem as an array that ends
early. -/
def looseReport : Json :=
  .arr [.arr [looseProblem,
      .arr [.obj [("offset", .int 9), ("column", .int 1), ("line", .int 2), ("file", .str "a.go")],
        .str "should be omitted", .str "", .float 0.8, .str "https://go.dev"]],
    .int 2]

/-- What `looseReport` is read as. -/
def strictReport : Report :=
  ⟨[strictProblem,
    { position := ⟨⟨"a.go"⟩, 2, 1, 9⟩, text := "should be omitted", category := "",
      confidence := 0.8, link := some "https://go.dev", lineText := "", replacement := none,
      rule := "" }], 2⟩

/-- What loose data is read as fits and is restored. -/
theorem Report.json_roundTrip_looseReport :
    (looseProblem.inRange ∧ Problem.ofJson? looseProblem = some strictProblem ∧
      strictProblem.Fits ∧ Problem.ofJson? strictProblem.toJson = some strictProblem) ∧
    (looseReport.inRange ∧ Report.ofJson? looseReport = some strictReport ∧
      strictReport.Fits ∧ Report.ofJson? strictReport.toJson = some strictReport) := by
  obtain ⟨hproblem, hreport, -, hproblemAgain, hreportAgain⟩ := Report.json_roundTrip
  have hlooseProblem : looseProblem.inRange := by decide +kernel
  have hlooseReport : looseReport.inRange := by decide +kernel
  have hstrictProblem : Problem.ofJson? looseProblem = some strictProblem := by rfl
  have hstrictReport : Report.ofJson? looseReport = some strictReport := by rfl
  have hproblemFits := (hproblemAgain looseProblem strictProblem hlooseProblem hstrictProblem).1
  have hreportFits := (hreportAgain looseReport strictReport hlooseReport hstrictReport).1
  exact ⟨⟨hlooseProblem, hstrictProblem, hproblemFits, hproblem strictProblem hproblemFits⟩,
    hlooseReport, hstrictReport, hreportFits, hreport strictReport hreportFits⟩

end GoStyle
