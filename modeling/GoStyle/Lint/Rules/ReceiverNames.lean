import GoStyle.Lint.Rule

/-!
# Receiver names

The receivers of a type's methods have one name throughout the package, the first that was used, and
it says something about the type: it is neither `_` nor `this` nor `self`.
-/

namespace GoStyle

/-- What is wrong with a receiver name, given the name of the type, if it can be named. -/
def PackageContext.receiverFault? (c : PackageContext) (name : String) (type : Option String) :
    Option String :=
  if name = "_" then
    some "receiver name should not be an underscore, omit the name if it is unused"
  else if isGenericReceiver name then
    some ("receiver name should be a reflection of its identity; " ++
      "don't use generic names such as " ++
      "\"this\" or \"self\"")
  else
    match type with
    | none => none
    | some type =>
      match c.receiverName? type with
      | none => none
      | some previous =>
        if previous = name then none
        else
          some ("receiver name " ++ name ++ " should be consistent with previous receiver name " ++
            previous ++ " for " ++ type)

/-- The problem with the receiver of a method. -/
def FileContext.receiverName (c : FileContext) (f : FuncDecl) : Option Problem :=
  f.receiverName?.bind fun name =>
    (c.package.receiverFault? name f.receiverType?).map fun text =>
      (c.problem f.pos 1.0 namingCategory text).withLink (reviewGuide "receiver-names")

/-- The rule on receiver names. -/
def receiverNamesRule : Rule :=
  Rule.ofFindings "receiver-names" namingCategory
    "Requires consistent receiver names other than _, this and self"
    fun c => c.file.funcs.filterMap c.receiverName

end GoStyle
