import GoStyle.Decimal.Power
import GoStyle.Pattern.Regex

/-!
# The text of marker patterns

Reading a regular expression from its text: literals, classes in brackets with set operations, named
classes, groups with flags, alternation, repetition and assertions. `Regex.ofText?` has no answer
for a text that is no pattern, such as `(`, `[a-`, `*` or `x{2,1}`.
-/

namespace GoStyle

/-- What a group's flags say: case is ignored, `^` and `$` match at line ends, `.` matches a line
feed, white space in the pattern is skipped, line ends may be a carriage return and a line feed, and
classes are confined to ASCII. -/
structure PatternFlags where
  ignoreCase : Bool
  multiLine : Bool
  dotAll : Bool
  extended : Bool
  crlf : Bool
  ascii : Bool
deriving Repr, DecidableEq

/-- No flag set. -/
def PatternFlags.plain : PatternFlags :=
  ⟨false, false, false, false, false, false⟩

/-- What is left of a pattern, the flags in force, the group names taken and the open groups. -/
structure PatternState where
  rest : List Char
  flags : PatternFlags
  names : List (List Char)
  depth : Nat

/-- A step in reading a pattern. -/
abbrev PatternReader := StateT PatternState Option

/-! ## Characters -/

/-- Drop white space and comments, which run from `#` to the end of the line. -/
def skipExtended (inComment : Bool) : List Char → List Char
  | [] => []
  | c :: s =>
    if inComment then skipExtended (c != '\n') s
    else if c = '#' then skipExtended true s
    else if isBlank c then skipExtended false s
    else c :: s

/-- Skip white space if the flags say so. -/
def skipSpace : PatternReader Unit :=
  modify fun st => if st.flags.extended then { st with rest := skipExtended false st.rest } else st

/-- The next character, which stays. -/
def peekChar? : PatternReader (Option Char) := do
  return (← get).rest.head?

/-- The next character, which is taken. -/
def takeChar : PatternReader Char := do
  match (← get).rest with
  | [] => failure
  | c :: s =>
    modify fun st => { st with rest := s }
    return c

/-- Take the given text if it comes next. -/
def takeIf (text : List Char) : PatternReader Bool := do
  let st ← get
  if text.isPrefixOf st.rest then
    set { st with rest := st.rest.drop text.length }
    return true
  else return false

/-- Take characters while they satisfy `p`. -/
def takeChars (p : Char → Bool) : PatternReader (List Char) := do
  let st ← get
  set { st with rest := st.rest.dropWhile p }
  return st.rest.takeWhile p

/-! ## Escapes -/

/-- The value of a hexadecimal digit. -/
def hexDigit? (c : Char) : Option Nat :=
  if isAsciiDigit c then some (c.toNat - '0'.toNat)
  else if 'a' ≤ c && c ≤ 'f' then some (c.toNat - 'a'.toNat + 10)
  else if 'A' ≤ c && c ≤ 'F' then some (c.toNat - 'A'.toNat + 10)
  else none

/-- The character with the given hexadecimal code. -/
def charOfHex (digits : List Char) : PatternReader Char := do
  let values ← digits.mapM (hexDigit? ·)
  let n := values.foldl (fun n d => n * 16 + d) 0
  if digits ≠ [] && n.isValidChar then return Char.ofNat n else failure

/-- A code of `n` digits, or of any number of digits in braces. -/
def readHex (n : Nat) : PatternReader Char := do
  skipSpace
  if ← takeIf ['\x7b'] then
    let digits ← takeChars (· != '\x7d')
    if ← takeIf ['\x7d'] then charOfHex (digits.filter (!isBlank ·)) else failure
  else
    let st ← get
    set { st with rest := st.rest.drop n }
    if (st.rest.take n).length = n then charOfHex (st.rest.take n) else failure

/-- The class with the given name, without regard to case, spaces and hyphens in the name. -/
def namedClass? (name : List Char) : Option CharSet :=
  match String.ofList ((name.filter fun c => c != ' ' && c != '_' && c != '-').map asciiLower) with
  | "l" | "letter" | "gc=l" | "gc=letter" | "alphabetic" | "alpha" => some .letter
  | "lu" | "uppercaseletter" | "gc=lu" => some (.inter .upper .letter)
  | "ll" | "lowercaseletter" | "gc=ll" => some (.inter .lower (.diff .letter .marked))
  | "uppercase" | "upper" => some .upper
  | "lowercase" | "lower" => some .lower
  | "nd" | "decimalnumber" | "digit" | "gc=nd" => some .digit
  | "whitespace" | "wspace" | "space" => some .blank
  | "any" => some .all
  | "ascii" => some .ascii
  | _ => none

/-- What an escape stands for. -/
inductive Escaped where
  | literal (c : Char)
  | set (s : CharSet)
  | anchor (a : Anchor)

/-- A class in the current flags: all of it, or its ASCII members, or the complement of these. A
complement that leaves ASCII is refused where classes are confined to it. -/
def classIn (flags : PatternFlags) (s : CharSet) (negated : Bool) : PatternReader CharSet :=
  if flags.ascii then
    if negated then failure else return .inter .ascii s
  else return if negated then .compl s else s

/-- A class by name after `\p` or, negated, `\P`. -/
def readNamedClass (negated : Bool) : PatternReader Escaped := do
  skipSpace
  let name ← if ← takeIf ['\x7b'] then do
      let name ← takeChars (· != '\x7d')
      if ← takeIf ['\x7d'] then pure name else failure
    else pure [← takeChar]
  let (negated, name) := match name with
    | '^' :: name => (!negated, name)
    | name => (negated, name)
  match namedClass? name with
  | none => failure
  | some s =>
    if (← get).flags.ascii then failure
    else return .set (if negated then .compl s else s)

/-- A word boundary, possibly of a kind named in braces. -/
def readBoundary : PatternReader Escaped := do
  let ascii := (← get).flags.ascii
  if ← takeIf "\x7bstart\x7d".toList then return .anchor (.wordStart ascii)
  else if ← takeIf "\x7bend\x7d".toList then return .anchor (.wordEnd ascii)
  else if ← takeIf "\x7bstart-half\x7d".toList then return .anchor (.wordStartHalf ascii)
  else if ← takeIf "\x7bend-half\x7d".toList then return .anchor (.wordEndHalf ascii)
  else return .anchor (.boundary ascii)

/-- The escape after a backslash. -/
def readEscape : PatternReader Escaped := do
  let flags := (← get).flags
  match ← takeChar with
  | 'd' => return .set (← classIn flags .digit false)
  | 'D' => return .set (← classIn flags .digit true)
  | 's' => return .set (← classIn flags .blank false)
  | 'S' => return .set (← classIn flags .blank true)
  | 'w' => return .set (← classIn flags .word false)
  | 'W' => return .set (← classIn flags .word true)
  | 'p' => readNamedClass false
  | 'P' => readNamedClass true
  | 'x' => return .literal (← readHex 2)
  | 'u' => return .literal (← readHex 4)
  | 'U' => return .literal (← readHex 8)
  | 'a' => return .literal (Char.ofNat 7)
  | 'f' => return .literal (Char.ofNat 12)
  | 't' => return .literal '\t'
  | 'n' => return .literal '\n'
  | 'r' => return .literal '\r'
  | 'v' => return .literal (Char.ofNat 11)
  | 'A' => return .anchor .textStart
  | 'z' => return .anchor .textEnd
  | 'b' => readBoundary
  | 'B' => return .anchor (.inside flags.ascii)
  | '<' => return .anchor (.wordStart flags.ascii)
  | '>' => return .anchor (.wordEnd flags.ascii)
  | c =>
    if isAscii c && !isAsciiUpper c && !isAsciiLower c && !isAsciiDigit c then return .literal c
    else failure

/-! ## Classes in brackets -/

/-- The class between `[:` and `:]`. -/
def asciiClass? (name : List Char) : Option CharSet :=
  match String.ofList name with
  | "alnum" => some (.unions [.range '0' '9', .range 'A' 'Z', .range 'a' 'z'])
  | "alpha" => some (.union (.range 'A' 'Z') (.range 'a' 'z'))
  | "ascii" => some .ascii
  | "blank" => some (.union (.single '\t') (.single ' '))
  | "cntrl" => some (.union (.range (Char.ofNat 0) (Char.ofNat 31)) (.single (Char.ofNat 127)))
  | "digit" => some (.range '0' '9')
  | "graph" => some (.range '!' '~')
  | "lower" => some (.range 'a' 'z')
  | "print" => some (.range ' ' '~')
  | "punct" => some (.unions [.range '!' '/', .range ':' '@', .range '[' '\x60', .range '\x7b' '~'])
  | "space" => some (.union (.range '\t' '\r') (.single ' '))
  | "upper" => some (.range 'A' 'Z')
  | "word" => some (.unions [.range '0' '9', .range 'A' 'Z', .single '_', .range 'a' 'z'])
  | "xdigit" => some (.unions [.range '0' '9', .range 'A' 'F', .range 'a' 'f'])
  | _ => none

/-- A class such as `[:alpha:]` or `[:^alpha:]`, of which nothing is taken unless it is one. -/
def readAsciiClass? : PatternReader (Option CharSet) := do
  let st ← get
  match st.rest with
  | '[' :: ':' :: s =>
    let (negated, s) := match s with
      | '^' :: s => (true, s)
      | s => (false, s)
    match asciiClass? (s.takeWhile (· != ':')), s.dropWhile (· != ':') with
    | some c, ':' :: ']' :: s =>
      set { st with rest := s }
      return some (if negated then .compl c else c)
    | _, _ => return none
  | _ => return none

/-- One character or escape of a class. -/
def readClassItem : PatternReader Escaped := do
  match ← takeChar with
  | '\\' => readEscape
  | c => return .literal c

/-- The members that an item of a class adds. -/
def Escaped.toSet? : Escaped → Option CharSet
  | .literal c => some (.single c)
  | .set s => some s
  | .anchor _ => none

/-- A range of a class, or one item if no range follows. -/
def readClassRange : PatternReader CharSet := do
  let first ← readClassItem
  skipSpace
  let st ← get
  let next := fun (s : List Char) =>
    (if st.flags.extended then skipExtended false s else s).head?
  match st.rest with
  | [] => failure
  | '-' :: s =>
    if next s = some ']' || next s = some '-' then
      match first.toSet? with
      | some s => return s
      | none => failure
    else do
      set { st with rest := s }
      skipSpace
      match first, ← readClassItem with
      | .literal lo, .literal hi => if lo ≤ hi then return .range lo hi else failure
      | _, _ => failure
  | _ =>
    match first.toSet? with
    | some s => return s
    | none => failure

/-- An operation between the parts of a class. -/
inductive ClassOp where
  | inter
  | diff
  | symm

/-- The members of two parts put together by an operation. -/
def ClassOp.apply (fold : CharSet → CharSet) : Option (CharSet × ClassOp) → CharSet → CharSet
  | none, t => t
  | some (s, .inter), t => .inter (fold s) (fold t)
  | some (s, .diff), t => .diff (fold s) (fold t)
  | some (s, .symm), t => .union (.diff (fold s) (fold t)) (.diff (fold t) (fold s))

/-- Leading hyphens of a class, which stand for themselves. -/
def takeHyphens : Nat → PatternReader Bool
  | 0 => return false
  | n + 1 => do
    if ← takeIf ['-'] then
      skipSpace
      let _ ← takeHyphens n
      return true
    else return false

mutual
/-- A class after its opening bracket. -/
def readClass : Nat → PatternReader CharSet
  | 0 => failure
  | n + 1 => do
    skipSpace
    let flags := (← get).flags
    let fold := fun (s : CharSet) => if flags.ignoreCase then CharSet.anyCase s else s
    let negated ← takeIf ['^']
    skipSpace
    let hyphens ← takeHyphens (← get).rest.length
    skipSpace
    let start ← if hyphens then pure (CharSet.single '-')
      else if ← takeIf [']'] then pure (CharSet.single ']')
      else pure CharSet.none
    let body ← readClassBody n fold none start
    let s := fold body
    if flags.ascii && negated then failure
    else return if negated then .compl s else s

/-- The rest of a class, `left` being the parts before the last operation and `acc` the members of
the current part. -/
def readClassBody : Nat → (CharSet → CharSet) → Option (CharSet × ClassOp) → CharSet →
    PatternReader CharSet
  | 0, _, _, _ => failure
  | n + 1, fold, left, acc => do
    skipSpace
    if ← takeIf ['&', '&'] then
      readClassBody n fold (some (ClassOp.apply fold left acc, .inter)) .none
    else if ← takeIf ['-', '-'] then
      readClassBody n fold (some (ClassOp.apply fold left acc, .diff)) .none
    else if ← takeIf ['~', '~'] then
      readClassBody n fold (some (ClassOp.apply fold left acc, .symm)) .none
    else match ← readAsciiClass? with
      | some s => readClassBody n fold left (.union acc s)
      | none =>
        if ← takeIf ['['] then
          let s ← readClass n
          readClassBody n fold left (.union acc s)
        else if ← takeIf [']'] then return ClassOp.apply fold left acc
        else
          let s ← readClassRange
          readClassBody n fold left (.union acc s)
end

/-! ## Flags and groups -/

/-- Read flags up to `)` or `:`, which is returned with the flags as changed and whether there were
any. Each flag may be named once, and a hyphen, of which there is at most one, needs a flag after
it. -/
def readFlags (on : Bool) (seen : List Char) (flags : PatternFlags) :
    List Char → Option (Char × PatternFlags × Bool × List Char)
  | [] => none
  | c :: s =>
    if c = ')' || c = ':' then
      if seen.head? = some '-' then none else some (c, flags, !seen.isEmpty, s)
    else if seen.contains c then none
    else match c with
      | '-' => readFlags false ('-' :: seen) flags s
      | 'i' => readFlags on (c :: seen) { flags with ignoreCase := on } s
      | 'm' => readFlags on (c :: seen) { flags with multiLine := on } s
      | 's' => readFlags on (c :: seen) { flags with dotAll := on } s
      | 'x' => readFlags on (c :: seen) { flags with extended := on } s
      | 'R' => readFlags on (c :: seen) { flags with crlf := on } s
      | 'u' => readFlags on (c :: seen) { flags with ascii := !on } s
      | 'U' => readFlags on (c :: seen) flags s
      | _ => none

/-- Whether a character may stand in a group's name. -/
def isGroupNameChar (first : Bool) (c : Char) : Bool :=
  c == '_' || isLetter c ||
    (!first && (isDigit c || c == '.' || c == '[' || c == ']'))

/-- The name of a group up to `>`, which must be new. -/
def readGroupName : PatternReader Unit := do
  let name ← takeChars (· != '>')
  let st ← get
  match name with
  | [] => failure
  | c :: s =>
    if isGroupNameChar true c && s.all (isGroupNameChar false) && !st.names.contains name then
      if ← takeIf ['>'] then modify fun st => { st with names := name :: st.names } else failure
    else failure

/-! ## Expressions -/

/-- A literal character in the current flags. -/
def literalIn (flags : PatternFlags) (c : Char) : Regex :=
  .char (if flags.ignoreCase then .anyCase (.single c) else .single c)

/-- What an escape matches in the current flags. -/
def Escaped.toRegex (flags : PatternFlags) : Escaped → Regex
  | .literal c => literalIn flags c
  | .set s => .char s
  | .anchor a => .anchor a

/-- A number in a repetition, with white space around it. -/
def readCount? : PatternReader (Option Nat) := do
  let _ ← takeChars isBlank
  let digits ← takeChars isAsciiDigit
  let _ ← takeChars isBlank
  match digits with
  | [] => return none
  | _ =>
    let n := digits.foldl (fun n c => n * 10 + (c.toNat - '0'.toNat)) 0
    if n < twoTo 32 then return some n else failure

/-- The bounds of a counted repetition after its opening brace. -/
def readBounds : PatternReader (Nat × Option Nat) := do
  skipSpace
  let least ← readCount?
  let bounds ← if ← takeIf [','] then do
      skipSpace
      if (← peekChar?) = some '\x7d' then
        match least with
        | some n => pure (n, none)
        | none => failure
      else match least, ← readCount? with
        | some n, some m => if n ≤ m then pure (n, some m) else failure
        | _, _ => failure
    else match least with
      | some n => pure (n, some n)
      | none => failure
  if ← takeIf ['\x7d'] then return bounds else failure

/-- An expression repeated within bounds. -/
def Regex.within (r : Regex) : Nat × Option Nat → Regex
  | (n, none) => (r.times n).andThen (.star r)
  | (n, some m) => (r.times n).andThen (r.upTo (m - n))

/-- A single character, escape, dot or line anchor. -/
def readPrimitive : PatternReader Regex := do
  let flags := (← get).flags
  match ← takeChar with
  | '\\' => return (← readEscape).toRegex flags
  | '.' =>
    if flags.ascii then failure
    else if flags.dotAll then return .char .all
    else if flags.crlf then return .char (.compl (.union (.single '\n') (.single '\r')))
    else return .char (.compl (.single '\n'))
  | '^' => return .anchor (if !flags.multiLine then .textStart
      else if flags.crlf then .lineStartCrlf else .lineStart)
  | '$' => return .anchor (if !flags.multiLine then .textEnd
      else if flags.crlf then .lineEndCrlf else .lineEnd)
  | c => return literalIn flags c

/-- The items of a sequence, last one first; an item without an expression is a change of flags. -/
def sequence (items : List (Option Regex)) : Regex :=
  items.foldl (fun r i => (i.getD .empty).andThen r) .empty

/-- Replace the last item, which must be an expression. -/
def repeatLast (f : Regex → Regex) : List (Option Regex) → PatternReader (List (Option Regex))
  | some r :: items => return some (f r) :: items
  | _ => failure

mutual
/-- An alternation up to a closing parenthesis or the end. -/
def readAlternation : Nat → PatternReader Regex
  | 0 => failure
  | n + 1 => do
    let r ← readSequence n []
    if ← takeIf ['|'] then return .alt r (← readAlternation n) else return r

/-- A sequence of which `items` have been read. -/
def readSequence : Nat → List (Option Regex) → PatternReader Regex
  | 0, _ => failure
  | n + 1, items => do
    skipSpace
    match ← peekChar? with
    | none => return sequence items
    | some '|' => return sequence items
    | some ')' => return sequence items
    | some '(' =>
      let _ ← takeChar
      readSequence n ((← readGroup n) :: items)
    | some '[' =>
      let _ ← takeChar
      let s ← readClass n
      readSequence n (some (.char s) :: items)
    | some '*' =>
      let _ ← takeChar
      let _ ← takeIf ['?']
      readSequence n (← repeatLast .star items)
    | some '+' =>
      let _ ← takeChar
      let _ ← takeIf ['?']
      readSequence n (← repeatLast (fun r => r.andThen (.star r)) items)
    | some '?' =>
      let _ ← takeChar
      let _ ← takeIf ['?']
      readSequence n (← repeatLast (.alt .empty) items)
    | some '\x7b' =>
      let _ ← takeChar
      let _ ← repeatLast id items
      let bounds ← readBounds
      skipSpace
      let _ ← takeIf ['?']
      readSequence n (← repeatLast (·.within bounds) items)
    | some _ =>
      let r ← readPrimitive
      readSequence n (some r :: items)

/-- A group after its opening parenthesis, or a change of flags. -/
def readGroup : Nat → PatternReader (Option Regex)
  | 0 => failure
  | n + 1 => do
    skipSpace
    let st ← get
    if st.depth = 250 then failure
    if ← takeIf ['?', 'P', '<'] then readGroupName
    else if ["?=", "?!", "?<=", "?<!"].any (·.toList.isPrefixOf st.rest) then failure
    else if ← takeIf ['?', '<'] then readGroupName
    else if ← takeIf ['?'] then
      match readFlags true [] st.flags (← get).rest with
      | none => failure
      | some (close, flags, any, rest) =>
        set { st with rest, flags }
        if close = ')' then
          if any then return none else failure
    modify fun s => { s with depth := st.depth + 1 }
    let r ← readAlternation n
    if ← takeIf [')'] then
      modify fun s => { s with depth := st.depth, flags := st.flags }
      return some r
    else failure
end

/-- The expression that a text stands for. -/
def Regex.ofText? (text : String) : Option Regex :=
  let s := text.toList
  match (readAlternation (3 * s.length + 3)).run ⟨s, .plain, [], 0⟩ with
  | some (r, st) => if st.rest.isEmpty then some r else none
  | none => none

end GoStyle
