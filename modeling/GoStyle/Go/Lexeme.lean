import GoStyle.Text.Word

/-!
# Lexemes

A Go source text is cut into lexemes: words, literals, symbols, comments, line ends and the gaps
between them. Nothing is left out, so the lexemes of a text put together are the text
(`text_of_lexemes?`). At every place the longest lexeme is taken; a text in which some place has
none, such as one with a string that is not closed, has no lexemes at all.
-/

namespace GoStyle

/-! ## Kinds -/

/-- What a lexeme is. A NUL character ends a line as a line feed does. -/
inductive LexemeKind where
  | gap
  | lineEnd
  | comment
  | word
  | literal
  | quoted
  | symbol
deriving Repr, DecidableEq

/-- A part of a source text. -/
structure Lexeme where
  kind : LexemeKind
  text : List Char
deriving Repr, DecidableEq

/-! ## Numbers -/

/-- Whether `c` is an octal digit. -/
def isOctal (c : Char) : Bool :=
  '0' ≤ c && c ≤ '7'

/-- Whether `c` is a binary digit. -/
def isBinary (c : Char) : Bool :=
  c == '0' || c == '1'

/-- Whether `c` is a hexadecimal digit. -/
def isHex (c : Char) : Bool :=
  isAsciiDigit c || ('a' ≤ c && c ≤ 'f') || ('A' ≤ c && c ≤ 'F')

/-- The length of the digits, each with at most one underscore before it, with which a text begins.
-/
def moreDigits (p : Char → Bool) : List Char → Nat
  | [] => 0
  | [c] => if p c then 1 else 0
  | c :: d :: s =>
    if p c then 1 + moreDigits p (d :: s)
    else if c = '_' ∧ p d then 2 + moreDigits p s
    else 0

/-- The length of the digits with which a text begins; an underscore may stand between two. -/
def digitsLength (p : Char → Bool) : List Char → Nat
  | [] => 0
  | c :: s => if p c then 1 + moreDigits p s else 0

/-- The length of an exponent with one of the given marks at the beginning of a text. -/
def exponentLength (marks : List Char) : List Char → Nat
  | [] => 0
  | m :: s =>
    if marks.contains m then
      match s with
      | '+' :: t | '-' :: t =>
        let n := digitsLength isAsciiDigit t
        if n = 0 then 0 else 2 + n
      | _ =>
        let n := digitsLength isAsciiDigit s
        if n = 0 then 0 else 1 + n
    else 0

/-- The length of digits that follow a base mark and perhaps an underscore. -/
def basedLength (p : Char → Bool) (s : List Char) : Nat :=
  let n := moreDigits p s
  if n = 0 then 0 else 2 + n

/-- The length of the whole number with which a text begins. -/
def wholeLength : List Char → Nat
  | '0' :: 'x' :: s | '0' :: 'X' :: s => max 1 (basedLength isHex s)
  | '0' :: 'b' :: s | '0' :: 'B' :: s => max 1 (basedLength isBinary s)
  | '0' :: 'o' :: s | '0' :: 'O' :: s => max 1 (basedLength isOctal s)
  | '0' :: s => 1 + moreDigits isOctal s
  | s => digitsLength isAsciiDigit s

/-- The length of the decimal number with a point or an exponent with which a text begins. -/
def decimalFloatLength (s : List Char) : Nat :=
  let exponent := exponentLength ['e', 'E']
  let whole := digitsLength isAsciiDigit s
  match s.drop whole with
  | '.' :: t =>
    let fraction := digitsLength isAsciiDigit t
    if whole = 0 ∧ fraction = 0 then 0
    else whole + 1 + fraction + exponent (t.drop fraction)
  | t => if whole = 0 ∨ exponent t = 0 then 0 else whole + exponent t

/-- The length of the hexadecimal number with an exponent that follows a base mark. -/
def hexFloatLength (s : List Char) : Nat :=
  let exponent := exponentLength ['p', 'P']
  let whole := moreDigits isHex s
  let mantissa :=
    match s.drop whole with
    | '.' :: t =>
      let fraction := digitsLength isHex t
      if whole = 0 ∧ fraction = 0 then 0 else whole + 1 + fraction
    | _ => whole
  if mantissa = 0 ∨ exponent (s.drop mantissa) = 0 then 0
  else 2 + mantissa + exponent (s.drop mantissa)

/-- The length of the number with a point or an exponent with which a text begins. -/
def floatLength : List Char → Nat
  | '0' :: 'x' :: s | '0' :: 'X' :: s => hexFloatLength s
  | s => decimalFloatLength s

/-- The length of an imaginary number of which the given length is the number before its mark. -/
def imaginaryLength (s : List Char) (n : Nat) : Nat :=
  if n ≠ 0 ∧ (s.drop n).head? = some 'i' then n + 1 else 0

/-- The length of the number with which a text begins. -/
def numberLength (s : List Char) : Nat :=
  let real := max (wholeLength s) (floatLength s)
  max real (max (imaginaryLength s real)
    (max (imaginaryLength s (wholeLength s)) (imaginaryLength s (digitsLength isAsciiDigit s))))

/-! ## Texts, runes and comments -/

/-- Whether a text begins with `n` hexadecimal digits. -/
def beginsHex (n : Nat) (s : List Char) : Bool :=
  (s.take n).length == n && (s.take n).all isHex

/-- Whether what follows a backslash in a string may stand there. -/
def isTextEscape : List Char → Bool
  | [] => false
  | 'x' :: s => beginsHex 2 s
  | 'u' :: s => beginsHex 4 s
  | 'U' :: s => beginsHex 8 s
  | _ :: _ => true

/-- The length of what follows an opening quote of a string, up to and with the closing one. -/
def textLength? : List Char → Option Nat
  | [] => none
  | '"' :: _ => some 1
  | '\n' :: _ => none
  | [_] => none
  | c :: d :: s =>
    if c = '\\' then
      if isTextEscape (d :: s) then (textLength? s).map (· + 2) else none
    else (textLength? (d :: s)).map (· + 1)

/-- The length of what follows an opening quote of a raw string, up to and with the closing one. -/
def rawTextLength? : List Char → Option Nat
  | [] => none
  | c :: s => if c = '`' then some 1 else (rawTextLength? s).map (· + 1)

/-- The length of the character that an escape in a rune names, with the backslash. -/
def runeEscapeLength? : List Char → Option Nat
  | 'x' :: s => if beginsHex 2 s then some 4 else none
  | 'u' :: s => if beginsHex 4 s then some 6 else none
  | 'U' :: s => if beginsHex 8 s then some 10 else none
  | a :: b :: c :: _ =>
    if isOctal a && isOctal b && isOctal c then some 4
    else if "abfnrtv\\\'\"".toList.contains a then some 2
    else none
  | c :: _ => if "abfnrtv\\\'\"".toList.contains c then some 2 else none
  | [] => none

/-- The length of what follows an opening quote of a rune, up to and with the closing one. -/
def runeLength? (s : List Char) : Option Nat :=
  let body? :=
    match s with
    | [] => none
    | '\\' :: t => runeEscapeLength? t
    | c :: _ => if c = '\'' then none else some 1
  body?.bind fun n => if (s.drop n).head? = some '\'' then some (n + 1) else none

/-- The length of what follows the opening of a block comment, up to and with its end. -/
def blockLength? : List Char → Option Nat
  | [] => none
  | [_] => none
  | c :: d :: s => if c = '*' ∧ d = '/' then some 2 else (blockLength? (d :: s)).map (· + 1)

/-! ## Symbols -/

/-- The operators and marks, longer ones first. -/
def symbols : List (List Char) :=
  ["&^=", "<<=", ">>=", "...", "<<", ">>", "&^", "+=", "-=", "*=", "/=", "%=", "&=", "|=", "^=",
    "&&", "||", "<-", "++", "--", "==", "!=", "<=", ">=", ":=", "+", "-", "*", "/", "%", "&", "|",
    "^", "<", ">", "=", "!", "(", ")", "[", "]", "\x7b", "\x7d", ",", ";", ".", ":", "~"].map
    String.toList

/-- The length of the longest symbol with which a text begins. -/
def symbolLength? (s : List Char) : Option Nat :=
  (symbols.find? (·.isPrefixOf s)).map List.length

/-- Whether `c` is white space within a line. -/
def isGap (c : Char) : Bool :=
  c == ' ' || c == '\t' || c == '\r' || c.toNat == 11 || c.toNat == 12

/-! ## Cutting a text -/

/-- The kind of the lexeme that begins with `c`, and the number of characters of `s` that belong to
it. -/
def lexemeAt? (c : Char) (s : List Char) : Option (LexemeKind × Nat) :=
  if c = '\n' ∨ c.toNat = 0 then some (.lineEnd, 0)
  else if isGap c then some (.gap, (s.takeWhile isGap).length)
  else if isIdentStart c then some (.word, (s.takeWhile isIdentPart).length)
  else if c = '/' ∧ s.head? = some '/' then
    some (.comment, (s.takeWhile (· != '\n')).length)
  else if c = '/' ∧ s.head? = some '*' then (blockLength? s.tail).map fun n => (.comment, n + 1)
  else if c = '"' then (textLength? s).map fun n => (.quoted, n)
  else if c = '`' then (rawTextLength? s).map fun n => (.quoted, n)
  else if c = '\'' then (runeLength? s).map fun n => (.literal, n)
  else if 0 < numberLength (c :: s) then some (.literal, numberLength (c :: s) - 1)
  else (symbolLength? (c :: s)).map fun n => (.symbol, n - 1)

/-- The lexemes of a text that has at most `limit` of them. -/
def lexemesWithin? : Nat → List Char → Option (List Lexeme)
  | _, [] => some []
  | 0, _ :: _ => none
  | limit + 1, c :: s =>
    match lexemeAt? c s with
    | none => none
    | some (kind, n) =>
      (lexemesWithin? limit (s.drop n)).map (⟨kind, c :: s.take n⟩ :: ·)

/-- The character that may stand at the beginning of a text as a mark of its encoding. -/
def encodingMark : Char :=
  Char.ofNat 0xFEFF

/-- The lexemes of a text. -/
def lexemes? (s : List Char) : Option (List Lexeme) :=
  match s with
  | [] => some []
  | c :: t =>
    if c = encodingMark then (lexemesWithin? t.length t).map (⟨.gap, [c]⟩ :: ·)
    else lexemesWithin? s.length s

/-! ## Nothing is lost -/

theorem text_of_lexemesWithin? {limit : Nat} {s : List Char} {ls : List Lexeme}
    (h : lexemesWithin? limit s = some ls) : ls.flatMap Lexeme.text = s := by
  induction limit generalizing s ls with
  | zero => cases s <;> simp_all [lexemesWithin?]
  | succ limit ih =>
    cases s with
    | nil => simp_all [lexemesWithin?]
    | cons c s =>
      simp only [lexemesWithin?] at h
      split at h
      · cases h
      · obtain ⟨ls', h', rfl⟩ := Option.map_eq_some_iff.1 h
        simp [ih h']

/-- The lexemes of a text, put together, are the text. -/
theorem text_of_lexemes? {s : List Char} {ls : List Lexeme} (h : lexemes? s = some ls) :
    ls.flatMap Lexeme.text = s := by
  unfold lexemes? at h
  split at h
  · cases h
    rfl
  · split at h
    · obtain ⟨ls', h', rfl⟩ := Option.map_eq_some_iff.1 h
      simp [text_of_lexemesWithin? h']
    · exact text_of_lexemesWithin? h

end GoStyle
