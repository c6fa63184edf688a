import GoStyle.Decimal.Nearest
import GoStyle.Toml.Value

/-!
# TOML keys and scalars

Reading keys, strings, numbers and dates from the text of a document. A reader fails where the text
has no such thing; it never tries another reading after a part has been read that only one reading
allows, so `0x` or `1_` are no numbers followed by something else.
-/

namespace GoStyle

/-- A step in reading a document. -/
abbrev TomlReader := StateT (List Char) Option

namespace Toml

/-! ## Characters -/

/-- The next character, which is taken. -/
def take : TomlReader Char := do
  match ← get with
  | [] => failure
  | c :: s =>
    set s
    return c

/-- Take the given text if it comes next. -/
def takeIf (text : String) : TomlReader Bool := do
  let s ← get
  if text.toList.isPrefixOf s then
    set (s.drop text.length)
    return true
  else return false

/-- Take the given text. -/
def expect (text : String) : TomlReader Unit := do
  unless ← takeIf text do failure

/-- Take characters as long as they are in a class. -/
def takeWhile (p : Char → Bool) : TomlReader (List Char) := do
  let s ← get
  set (s.dropWhile p)
  return s.takeWhile p

/-- Take a character of a class. -/
def takeOne (p : Char → Bool) : TomlReader Char := do
  let c ← take
  if p c then return c else failure

/-- Whether the rest of the text begins with a character of a class. -/
def nextIs (p : Char → Bool) : TomlReader Bool := do
  return (← get).head?.any p

/-- Whether `c` is white space within a line. -/
def isSpace (c : Char) : Bool :=
  c == ' ' || c == '\t'

/-- Skip white space within a line. -/
def skipSpace : TomlReader Unit :=
  discard (takeWhile isSpace)

/-- Whether `c` may stand in a comment and, quotes and backslashes apart, in a string. -/
def isPlain (c : Char) : Bool :=
  c == '\t' || (0x20 ≤ c.toNat && c.toNat ≠ 0x7F)

/-- Take the end of a line if it comes next. -/
def takeNewline : TomlReader Bool := do
  if ← takeIf "\n" then return true else takeIf "\r\n"

/-! ## Strings -/

/-- The value of a hexadecimal digit. -/
def hexValue? (c : Char) : Option Nat :=
  if '0' ≤ c ∧ c ≤ '9' then some (c.toNat - 48)
  else if 'a' ≤ c ∧ c ≤ 'f' then some (c.toNat - 87)
  else if 'A' ≤ c ∧ c ≤ 'F' then some (c.toNat - 55)
  else none

/-- The character with the number that the next `n` hexadecimal digits give. -/
def readScalar (n : Nat) : TomlReader Char := do
  let s ← get
  let digits := s.take n
  unless digits.length == n do failure
  set (s.drop n)
  let some values := digits.mapM hexValue? | failure
  let code := values.foldl (fun total d => total * 16 + d) 0
  if code.isValidChar then return Char.ofNat code else failure

/-- The character that an escape stands for, after its backslash. -/
def readEscape : TomlReader Char := do
  match ← take with
  | 'b' => return Char.ofNat 8
  | 't' => return '\t'
  | 'n' => return '\n'
  | 'f' => return Char.ofNat 12
  | 'r' => return '\r'
  | '"' => return '"'
  | '\\' => return '\\'
  | 'u' => readScalar 4
  | 'U' => readScalar 8
  | _ => failure

/-- The rest of a string on one line, after its opening quote. -/
def readBasic : Nat → TomlReader (List Char)
  | 0 => failure
  | limit + 1 => do
    match ← take with
    | '"' => return []
    | '\\' => return (← readEscape) :: (← readBasic limit)
    | c => if isPlain c then return c :: (← readBasic limit) else failure

/-- The rest of a string without escapes on one line, after its opening quote. -/
def readLiteral : TomlReader (List Char) := do
  let s ← takeWhile fun c => c != '\'' && isPlain c
  expect "'"
  return s

/-- Skip white space and the ends of lines. -/
def skipLines (s : List Char) : List Char :=
  match s with
  | '\r' :: '\n' :: t => skipLines t
  | c :: t => if isSpace c ∨ c = '\n' then skipLines t else s
  | [] => []

/-- The quotes at the end of a string on several lines that belong to the string: of up to five, all
but three. -/
def closingQuotes (quote : Char) (s : List Char) : Option Nat :=
  let n := (s.take 5).takeWhile (· == quote) |>.length
  if 3 ≤ n then some (n - 3) else none

/-- The rest of a string on several lines. With escapes, a backslash at the end of a line joins it
to the next text. -/
def readLong (quote : Char) (escapes : Bool) : Nat → TomlReader (List Char)
  | 0 => failure
  | limit + 1 => do
    match closingQuotes quote (← get) with
    | some n =>
      modify (·.drop (n + 3))
      return List.replicate n quote
    | none =>
      if ← takeNewline then return '\n' :: (← readLong quote escapes limit)
      match ← take with
      | '\\' =>
        if !escapes then return '\\' :: (← readLong quote escapes limit)
        let s ← get
        let after := s.dropWhile isSpace
        match after with
        | '\n' :: _ | '\r' :: '\n' :: _ =>
          set (skipLines after)
          readLong quote escapes limit
        | _ => return (← readEscape) :: (← readLong quote escapes limit)
      | c => if isPlain c then return c :: (← readLong quote escapes limit) else failure

/-- A string. -/
def readString : TomlReader String := do
  let limit := (← get).length + 1
  if ← takeIf "\"\"\"" then
    let _ ← takeNewline
    return String.ofList (← readLong '"' true limit)
  else if ← takeIf "'''" then
    let _ ← takeNewline
    return String.ofList (← readLong '\'' false limit)
  else if ← takeIf "\"" then return String.ofList (← readBasic limit)
  else
    expect "'"
    return String.ofList (← readLiteral)

/-! ## Keys -/

/-- Whether `c` may stand in a key without quotes. -/
def isBare (c : Char) : Bool :=
  ('a' ≤ c && c ≤ 'z') || ('A' ≤ c && c ≤ 'Z') || ('0' ≤ c && c ≤ '9') || c == '_' || c == '-'

/-- One part of a key. -/
def readKeyPart : TomlReader String := do
  if ← takeIf "\"" then return String.ofList (← readBasic ((← get).length + 1))
  else if ← takeIf "'" then return String.ofList (← readLiteral)
  else
    let s ← takeWhile isBare
    if s.isEmpty then failure else return String.ofList s

/-- How deep values and keys may be nested. -/
def maxDepth : Nat :=
  79

/-- The parts of a key that has at most `limit` of them, white space around them skipped. -/
def readKeyParts : Nat → TomlReader (List String)
  | 0 => failure
  | limit + 1 => do
    skipSpace
    let part ← readKeyPart
    skipSpace
    if ← takeIf "." then return part :: (← readKeyParts limit) else return [part]

/-- The parts of a key: those before the last, and the last. -/
def readKey : TomlReader (List String × String) := do
  let parts ← readKeyParts maxDepth
  match parts.getLast? with
  | some last => return (parts.dropLast, last)
  | none => failure

/-! ## Numbers -/

/-- Whether `c` is a decimal digit. -/
def isDecimal (c : Char) : Bool :=
  '0' ≤ c && c ≤ '9'

/-- The digits of a class that follow the first digit of a number; an underscore stands between two
digits. -/
def moreDigitsOf (p : Char → Bool) : Nat → TomlReader (List Char)
  | 0 => return []
  | limit + 1 => do
    if ← takeIf "_" then
      let c ← takeOne p
      return c :: (← moreDigitsOf p limit)
    else if ← nextIs p then
      let c ← take
      return c :: (← moreDigitsOf p limit)
    else return []

/-- The digits of a class, at least one, underscores left out. -/
def readDigits (p : Char → Bool) : TomlReader (List Char) := do
  let c ← takeOne p
  return c :: (← moreDigitsOf p (← get).length)

/-- The number that digits stand for. -/
def digitsValue (base : Nat) (digits : List Char) : Nat :=
  digits.foldl (fun n c => n * base + (hexValue? c).getD 0) 0

/-- An integer, if it can be stored. -/
def storable (n : Int) : TomlReader TomlValue :=
  if -(twoTo 63 : Int) ≤ n ∧ n < twoTo 63 then return .int n else failure

/-- A whole number in another base than ten. -/
def readBased (base : Nat) : TomlReader TomlValue := do
  let p := fun c => (hexValue? c).any (· < base)
  storable (digitsValue base (← readDigits p))

/-- The digits of an exponent with its sign. -/
def readExponent : TomlReader Int := do
  let minus ← takeIf "-"
  unless minus do discard (takeIf "+")
  let n := digitsValue 10 (← readDigits isDecimal)
  return if minus then -(n : Int) else n

/-- A number in base ten, after its sign; one with a point or an exponent is no integer. -/
def readDecimal (minus : Bool) : TomlReader TomlValue := do
  let whole ←
    if ← takeIf "0" then pure ['0']
    else readDigits isDecimal
  let point ← do
    match ← get with
    | '.' :: c :: _ => pure (isDecimal c)
    | _ => pure false
  let fraction ←
    if point then
      let _ ← take
      some <$> readDigits isDecimal
    else pure none
  let exponent ←
    if ← nextIs (fun c => c == 'e' || c == 'E') then
      let _ ← take
      some <$> readExponent
    else pure none
  if fraction.isNone && exponent.isNone then
    let n : Int := digitsValue 10 whole
    storable (if minus then -n else n)
  else
    let digits := fraction.getD []
    let x := nearestDouble minus (digitsValue 10 (whole ++ digits))
      (exponent.getD 0 - (digits.length : Int))
    if x.isInf && !minus then failure else return .float x

/-! ## Dates and times -/

/-- A number of exactly `n` digits at the beginning of a text, between two bounds. -/
def fixed? (n lo hi : Nat) (s : List Char) : Option (Nat × List Char) :=
  let digits := s.take n
  if digits.length = n ∧ digits.all isDecimal then
    let v := digitsValue 10 digits
    if lo ≤ v ∧ v ≤ hi then some (v, s.drop n) else none
  else none

/-- What follows a character with which a text begins. -/
def after1? (c : Char) : List Char → Option (List Char)
  | [] => none
  | d :: s => if c = d then some s else none

/-- The number of days in a month. -/
def daysIn (year month : Nat) : Nat :=
  if month = 2 then
    if year % 4 = 0 ∧ (year % 100 ≠ 0 ∨ year % 400 = 0) then 29 else 28
  else if month = 4 ∨ month = 6 ∨ month = 9 ∨ month = 11 then 30
  else 31

/-- What follows a date with which a text begins. -/
def afterDate? (s : List Char) : Option (List Char) := do
  let (year, s) ← fixed? 4 0 9999 s
  let s ← after1? '-' s
  let (month, s) ← fixed? 2 1 12 s
  let s ← after1? '-' s
  let (_, s) ← fixed? 2 1 (daysIn year month) s
  return s

/-- What follows a time of day with which a text begins. -/
def afterTime? (s : List Char) : Option (List Char) := do
  let (_, s) ← fixed? 2 0 23 s
  let s ← after1? ':' s
  let (_, s) ← fixed? 2 0 59 s
  let s ← after1? ':' s
  let (_, s) ← fixed? 2 0 60 s
  match s with
  | '.' :: t =>
    let rest := t.dropWhile isDecimal
    if rest.length < t.length then return rest else return s
  | _ => return s

/-- What follows the distance from universal time with which a text begins, or the text itself. -/
def afterOffset? (s : List Char) : Option (List Char) :=
  match s with
  | 'Z' :: t | 'z' :: t => some t
  | '+' :: t | '-' :: t => do
    let (_, t) ← fixed? 2 0 23 t
    let t ← after1? ':' t
    let (_, t) ← fixed? 2 0 59 t
    return t
  | _ => some s

/-- What follows a date, a time or both with which a text begins. -/
def afterDateTime? (s : List Char) : Option (List Char) :=
  match afterDate? s with
  | none => afterTime? s
  | some rest =>
    match rest with
    | c :: t =>
      if c = 'T' ∨ c = 't' ∨ c = ' ' then
        match afterTime? t with
        | some t => afterOffset? t
        | none => some rest
      else some rest
    | [] => some []

/-! ## Values that begin with a digit or a sign -/

/-- Infinity or no number, after a sign. -/
def readSpecial (minus : Bool) : TomlReader TomlValue := do
  let one : Float := if minus then -1 else 1
  if ← takeIf "inf" then return .float (one / 0)
  else
    expect "nan"
    return .float (0.0 / 0.0)

/-- A number or a date. -/
def readNumber : TomlReader TomlValue := do
  match afterDateTime? (← get) with
  | some rest =>
    set rest
    return .date
  | none =>
    if ← takeIf "0x" then readBased 16
    else if ← takeIf "0o" then readBased 8
    else if ← takeIf "0b" then readBased 2
    else
      let minus ← takeIf "-"
      unless minus do discard (takeIf "+")
      if ← nextIs isDecimal then readDecimal minus else readSpecial minus

/-- A truth value. -/
def readBool : TomlReader TomlValue := do
  if ← takeIf "true" then return .bool true
  else
    expect "false"
    return .bool false

end Toml

end GoStyle
