import GoStyle.Lint.Confidence
import GoStyle.Lint.Policy

/-!
# Configurations

A configuration sets the threshold, the tables of the policy, and the files to leave out. Whatever
it does not set has a default.
-/

namespace GoStyle

/-- Settings of a run. -/
structure Config where
  minConfidence : Option Float
  policy : PolicyTables
  exclude : List String

/-- The configuration that sets nothing. -/
def Config.default : Config :=
  ⟨none, PolicyTables.default, []⟩

/-- The threshold of the configuration, or the default. -/
def Config.effectiveConfidence (c : Config) : Float :=
  c.minConfidence.getD defaultMinConfidence

end GoStyle
