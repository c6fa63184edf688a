import GoStyle.Json
import GoStyle.Lint.Report

/-!
# Problems and reports as data

The JSON form of problems and reports. Writing leaves out a link and a replacement that are not set.
Reading takes an object, in which members may stand in any order and unknown ones are passed over,
or an array with the members in their fixed order, of which those with a default may be missing at
the end.
-/

namespace GoStyle

/-! ## Writing -/

/-- A position as data. -/
def Position.toJson (p : Position) : Json :=
  .obj [("file", .str p.file.text), ("line", .int p.line), ("column", .int p.column),
    ("offset", .int p.offset)]

/-- A member that is left out when there is no value. -/
def optionalMember (name : String) : Option String → List (String × Json)
  | none => []
  | some s => [(name, .str s)]

/-- A problem as data. -/
def Problem.toJson (p : Problem) : Json :=
  .obj ([("position", p.position.toJson), ("text", .str p.text), ("category", .str p.category),
      ("confidence", Json.ofDouble p.confidence)] ++ optionalMember "link" p.link ++
    [("line_text", .str p.lineText)] ++ optionalMember "replacement_line" p.replacement ++
    [("rule", .str p.rule)])

/-- A report as data. -/
def Report.toJson (r : Report) : Json :=
  .obj [("problems", .arr (r.problems.map Problem.toJson)), ("files_checked", .int r.filesChecked)]

/-! ## Reading -/

/-- The members with the given names, in this order: of an object by name, of an array, which may
not be longer, by place. -/
def Json.fields? (names : List String) : Json → Option (List (Option Json))
  | .obj members => some (names.map (Json.member? · members))
  | .arr items =>
    if items.length ≤ names.length then
      some (items.map some ++ List.replicate (names.length - items.length) none)
    else none
  | _ => none

/-- A member that must be there. -/
def required (read : Json → Option α) (v : Option Json) : Option α :=
  v.bind read

/-- A member with a default. -/
def defaulted (default : α) (read : Json → Option α) : Option Json → Option α
  | none => some default
  | some v => read v

/-- The position in a value. -/
def Position.ofJson? (v : Json) : Option Position :=
  match v.fields? ["file", "line", "column", "offset"] with
  | some [file, line, column, offset] => do
    let file ← required Json.str? file
    let line ← required Json.word? line
    let column ← required Json.word? column
    let offset ← defaulted 0 Json.word? offset
    pure ⟨⟨file⟩, line, column, offset⟩
  | _ => none

/-- The problem in a value. -/
def Problem.ofJson? (v : Json) : Option Problem :=
  match v.fields? ["position", "text", "category", "confidence", "link", "line_text",
    "replacement_line", "rule"] with
  | some [position, text, category, confidence, link, lineText, replacement, rule] => do
    let position ← required Position.ofJson? position
    let text ← required Json.str? text
    let category ← required Json.str? category
    let confidence ← required Json.double? confidence
    let link ← defaulted none Json.optionalStr? link
    let lineText ← defaulted "" Json.str? lineText
    let replacement ← defaulted none Json.optionalStr? replacement
    let rule ← defaulted "" Json.str? rule
    pure { position, text, category, confidence, link, lineText, replacement, rule }
  | _ => none

/-- The report in a value. -/
def Report.ofJson? (v : Json) : Option Report :=
  match v.fields? ["problems", "files_checked"] with
  | some [problems, filesChecked] => do
    let items ← required Json.items? problems
    let problems ← items.mapM Problem.ofJson?
    let filesChecked ← required Json.word? filesChecked
    pure ⟨problems, filesChecked⟩
  | _ => none

end GoStyle
