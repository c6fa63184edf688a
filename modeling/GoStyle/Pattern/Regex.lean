import GoStyle.Pattern.CharSet

/-!
# Marker patterns

Regular expressions over characters with assertions about the place between two characters. A text
is searched with sets of residuals: `Regex.residuals` gives what remains to be matched after one
character, and `Regex.matches` asks at every place whether some residual of a match begun so far, or
begun here, is satisfied (`Regex.holds`). Groups capture nothing and repetition is neither greedy
nor lazy, since only the existence of a match is asked for.
-/

namespace GoStyle

/-- An assertion about the place between two characters. -/
inductive Anchor where
  | textStart
  | textEnd
  | lineStart
  | lineEnd
  | lineStartCrlf
  | lineEndCrlf
  | boundary (ascii : Bool)
  | inside (ascii : Bool)
  | wordStart (ascii : Bool)
  | wordEnd (ascii : Bool)
  | wordStartHalf (ascii : Bool)
  | wordEndHalf (ascii : Bool)
deriving Repr, DecidableEq

/-- Whether there is a word character on one side of a place. -/
def wordBeside (ascii : Bool) : Option Char → Bool
  | none => false
  | some c => isWordChar c && (!ascii || isAscii c)

/-- Whether the assertion holds between the characters `before` and `after`. -/
def Anchor.holds (a : Anchor) (before after : Option Char) : Bool :=
  match a with
  | .textStart => before.isNone
  | .textEnd => after.isNone
  | .lineStart => before.isNone || before == some '\n'
  | .lineEnd => after.isNone || after == some '\n'
  | .lineStartCrlf =>
    before.isNone || before == some '\n' || (before == some '\r' && after != some '\n')
  | .lineEndCrlf =>
    after.isNone || after == some '\r' || (after == some '\n' && before != some '\r')
  | .boundary ascii => wordBeside ascii before != wordBeside ascii after
  | .inside ascii => wordBeside ascii before == wordBeside ascii after
  | .wordStart ascii => !wordBeside ascii before && wordBeside ascii after
  | .wordEnd ascii => wordBeside ascii before && !wordBeside ascii after
  | .wordStartHalf ascii => !wordBeside ascii before
  | .wordEndHalf ascii => !wordBeside ascii after

/-- A regular expression. -/
inductive Regex where
  | never
  | empty
  | char (s : CharSet)
  | anchor (a : Anchor)
  | seq (r s : Regex)
  | alt (r s : Regex)
  | star (r : Regex)
deriving Repr, DecidableEq

/-- `r` and then `s`. -/
def Regex.andThen : Regex → Regex → Regex
  | .empty, s => s
  | .never, _ => .never
  | r, .empty => r
  | r, s => .seq r s

/-- `n` times `r`. -/
def Regex.times (r : Regex) : Nat → Regex
  | 0 => .empty
  | n + 1 => r.andThen (r.times n)

/-- At most `n` times `r`. -/
def Regex.upTo (r : Regex) : Nat → Regex
  | 0 => .empty
  | n + 1 => .alt .empty (r.andThen (r.upTo n))

/-- Whether the expression matches the empty text between `before` and `after`. -/
def Regex.holds (before after : Option Char) : Regex → Bool
  | .never => false
  | .empty => true
  | .char _ => false
  | .anchor a => a.holds before after
  | .seq r s => r.holds before after && s.holds before after
  | .alt r s => r.holds before after || s.holds before after
  | .star _ => true

/-- What remains to be matched after `c`, which follows `before`: one of these expressions. -/
def Regex.residuals (before : Option Char) (c : Char) : Regex → List Regex
  | .never => []
  | .empty => []
  | .char s => if s.has c then [.empty] else []
  | .anchor _ => []
  | .seq r s =>
    (r.residuals before c).map (·.andThen s) ++
      if r.holds before (some c) then s.residuals before c else []
  | .alt r s => r.residuals before c ++ s.residuals before c
  | .star r => (r.residuals before c).map (·.andThen (.star r))

/-- Whether a match begun earlier, of which one of `pending` remains, or a match of `r` begun here
or later ends somewhere in the rest of the text. -/
def Regex.matchesFrom (r : Regex) (pending : List Regex) (before : Option Char) :
    List Char → Bool
  | [] => (r :: pending).any (·.holds before none)
  | c :: s =>
    (r :: pending).any (·.holds before (some c)) ||
      r.matchesFrom ((r :: pending).flatMap (·.residuals before c)).eraseDups (some c) s

/-- Whether the expression matches some part of the text. -/
def Regex.matches (r : Regex) (s : List Char) : Bool :=
  r.matchesFrom [] none s

end GoStyle
