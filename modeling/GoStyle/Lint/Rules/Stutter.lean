import GoStyle.Lint.Rule
import GoStyle.Text.Affix

/-!
# Stuttering names

Other packages write the name of a package in front of what it exports, so an exported name should
not begin with the package's name again. A name stutters when it is the package's name, in any ASCII
case, followed by at least three characters of which the first is an underscore or upper-case.
-/

namespace GoStyle

/-- Whether what follows the package's name is a name of its own. -/
def isStutterRest : List Char → Bool
  | [] => false
  | c :: s => (c == '_' || isUpper c) && 2 ≤ s.length

/-- What follows the package's name in a name that stutters. -/
def stutterRest? (package name : String) : Option String :=
  match splitBytes? package.utf8ByteSize name.toList with
  | none => none
  | some (head, rest) =>
    if equalIgnoringAsciiCase head package.toList && isStutterRest rest then
      some (String.ofList rest)
    else none

/-- The problem with a name that stutters. -/
def FileContext.stutter (c : FileContext) (thing : String) (id : Ident) : Option Problem :=
  if !id.isExported || c.policy.isKnownException id.name then none
  else
    (stutterRest? c.packageName id.name).map fun rest =>
      (c.problem id.pos 0.8 namingCategory
        (thing ++ " name will be used as " ++ c.packageName ++ "." ++ id.name ++
          " by other packages, and that stutters; consider calling this " ++ rest)).withLink
        (reviewGuide "package-names")

/-- The problems with the names of a declaration that stutter; methods are called on values and
cannot. -/
def FileContext.stutters (c : FileContext) : Decl → List Problem
  | .type d => d.specs.filterMap fun s => c.stutter "type" s.name
  | .func f => if f.isMethod then [] else (c.stutter "func" f.name).toList
  | .value d => (d.specs.flatMap (·.names)).filterMap (c.stutter d.kind.keyword)

/-- The rule on stuttering names. -/
def stutterRule : Rule :=
  Rule.ofFindings "name-stutter" namingCategory
    "Detects exported names that repeat the package name"
    fun c => c.file.decls.flatMap c.stutters

end GoStyle
