import GoStyle.Lint.Rule
import GoStyle.Text.LetterCase

/-!
# Mixed caps

`mixedCaps` gives the form that a name should have: words are joined without underscores, each after
the first beginning with a capital, and initialisms such as `URL` have one case throughout. A word
ends before an underscore, and where a lower-case character is followed by one that is not. One
underscore between two digits stays. The upper-case form of an initialism may be longer than the
word (`ß` becomes `SS`); it is then written over what follows, and a name too short for that is a
fault.
-/

namespace GoStyle

/-- The initialisms that have one case throughout. -/
def initialisms : List String :=
  ["ACL", "API", "ASCII", "CPU", "CSS", "DNS", "EOF", "GUID", "HTML", "HTTP", "HTTPS", "ID", "IP",
    "JSON", "LHS", "QPS", "RAM", "RHS", "RPC", "SLA", "SMTP", "SQL", "SSH", "TCP", "TLS", "TTL",
    "UDP", "UI", "UID", "UUID", "URI", "URL", "UTF8", "VM", "XML", "XMPP", "XSRF", "XSS"]

/-- Whether a word in upper case is an initialism. -/
def isInitialism (upper : List Char) : Bool :=
  initialisms.contains (String.ofList upper)

/-- Whether a word begins with a lower-case character. -/
def startsLower : List Char → Bool
  | [] => false
  | c :: _ => isLower c

/-- A word with its first character in upper case; only the first character of a longer form counts.
-/
def capitalized : List Char → List Char
  | [] => []
  | c :: s => (upperOf c).headD c :: s

/-- What is written over a word and, if it is longer, over what follows. -/
def wordForm (atStart : Bool) (word : List Char) : List Char :=
  if isInitialism (toUpper word) then
    if atStart && startsLower word then toLower word else toUpper word
  else if !atStart && toLower word == word then capitalized word
  else word

/-- What follows a word after underscores have been taken away: those that follow directly, except
for one between two digits. `last` is the last character of the word. -/
def afterUnderscores (last : Char) (rest : List Char) : List Char :=
  match rest with
  | '_' :: _ =>
    match rest.dropWhile (· == '_') with
    | [] => []
    | c :: s => if isAsciiDigit last && isAsciiDigit c then '_' :: c :: s else c :: s
  | _ => rest

/-- Whether a word ends between its last character and what follows. -/
def wordEnds (last : Char) (rest : List Char) : Bool :=
  match rest with
  | [] => true
  | c :: _ => c == '_' || (isLower last && !isLower c)

/-- Write `form` over the beginning of `s`. -/
def writeOver (form s : List Char) : List Char :=
  form ++ s.drop form.length

/-- What follows a word is never longer than what was there. -/
theorem length_afterUnderscores_le (last : Char) (rest : List Char) :
    (afterUnderscores last rest).length ≤ rest.length := by
  unfold afterUnderscores
  split
  · rename_i s
    have h := (List.dropWhile_suffix (· == '_') (l := '_' :: s)).length_le
    have hd : ('_' :: s).dropWhile (· == '_') = s.dropWhile (· == '_') := by simp
    have h' := (List.dropWhile_suffix (· == '_') (l := s)).length_le
    rw [hd]
    split
    · simp
    · rename_i c t e
      rw [e] at h'
      split
      · simpa using h'
      · simp at h' ⊢
        omega
  · exact Nat.le_refl _

/-- A word in its form and what follows it then; a fault if the form has no room. -/
def finishWord (atStart : Bool) (word rest : List Char) :
    Except RuleFault (List Char × List Char) :=
  let form := wordForm atStart word
  if word.length + rest.length < form.length then .error (.initialismOverrun (String.ofList word))
  else .ok ((writeOver form (word ++ rest)).splitAt word.length)

/-- What follows a word keeps its length when the word gets its form. -/
theorem length_of_finishWord {atStart : Bool} {word rest out rest' : List Char}
    (h : finishWord atStart word rest = .ok (out, rest')) : rest'.length = rest.length := by
  unfold finishWord at h
  dsimp only at h
  split at h
  · cases h
  · rename_i hlen
    simp only [List.splitAt_eq, Except.ok.injEq, Prod.mk.injEq] at h
    rw [← h.2, writeOver, List.length_drop, List.length_append, List.length_drop,
      List.length_append]
    omega

/-- The rest of a name from inside a word on, `word` being the part of it that has been read, last
character first. -/
def mixedFrom (atStart : Bool) (word : List Char) : List Char → Except RuleFault (List Char)
  | [] => .ok word.reverse
  | c :: s =>
    if wordEnds c s then
      match h : finishWord atStart (c :: word).reverse (afterUnderscores c s) with
      | .error e => .error e
      | .ok (out, rest) =>
        have : rest.length ≤ s.length :=
          length_of_finishWord h ▸ length_afterUnderscores_le c s
        match mixedFrom false [] rest with
        | .error e => .error e
        | .ok more => .ok (out ++ more)
    else mixedFrom atStart (c :: word) s
termination_by s => s.length
decreasing_by
  · exact Nat.lt_succ_of_le this
  · exact Nat.lt_succ_self _

/-- The form that a name should have. Names in lower case throughout stay. -/
def mixedCaps (name : List Char) : Except RuleFault (List Char) :=
  if name = ['_'] ∨ name.all isLower then .ok name else mixedFrom true [] name

end GoStyle
