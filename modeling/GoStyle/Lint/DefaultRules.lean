import GoStyle.Lint.Rules.FuncDoc
import GoStyle.Lint.Rules.Names
import GoStyle.Lint.Rules.PackageComment
import GoStyle.Lint.Rules.ReceiverNames
import GoStyle.Lint.Rules.Stutter
import GoStyle.Lint.Rules.TypeDoc
import GoStyle.Lint.Rules.ValueDoc

/-!
# The rules

All rules, in the order in which they look at a file.
-/

namespace GoStyle

/-- All rules. -/
def defaultRules : List Rule :=
  [packageCommentRule, typeDocRule, funcDocRule, valueDocRule, stutterRule, namesRule,
    receiverNamesRule]

/-- The rule with a name. -/
def ruleNamed? (name : String) : Option Rule :=
  defaultRules.find? (·.name == name)

end GoStyle
