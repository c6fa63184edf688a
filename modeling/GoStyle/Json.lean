import GoStyle.Decimal.Layout

/-!
# JSON values

Values of the data format that reports are written in, and their indented text. Members of an object
keep their order. Integers and doubles are told apart, as they are in the text.
-/

namespace GoStyle

/-- A JSON value. -/
inductive Json where
  | null
  | bool (b : Bool)
  | int (n : Int)
  | float (x : Float)
  | str (s : String)
  | arr (items : List Json)
  | obj (members : List (String × Json))
deriving Inhabited

/-! ## Reading members -/

/-- The value of the first member with the given name. -/
def Json.member? (name : String) : List (String × Json) → Option Json
  | [] => none
  | (n, v) :: ms => if n = name then some v else member? name ms

/-- A string. -/
def Json.str? : Json → Option String
  | .str s => some s
  | _ => none

/-- An integer from 0 to the largest word of 64 bits. -/
def Json.word? : Json → Option Nat
  | .int n => if 0 ≤ n && n < twoTo 64 then some n.toNat else none
  | _ => none

/-- A number as a double. -/
def Json.double? : Json → Option Float
  | .int n => some (doubleOfInt n)
  | .float x => some x
  | _ => none

/-- A string, or nothing for a null. -/
def Json.optionalStr? : Json → Option (Option String)
  | .null => some none
  | .str s => some (some s)
  | _ => none

/-- The items of an array. -/
def Json.items? : Json → Option (List Json)
  | .arr items => some items
  | _ => none

/-- A double as a value: null unless it is finite. -/
def Json.ofDouble (x : Float) : Json :=
  if x.isFinite then .float x else .null

/-! ## Text -/

/-- A character inside a string literal: quotes, backslashes and control characters are escaped. -/
def escapeChar (c : Char) : List Char :=
  if c = '"' then ['\\', '"']
  else if c = '\\' then ['\\', '\\']
  else if c = '\n' then ['\\', 'n']
  else if c = '\r' then ['\\', 'r']
  else if c = '\t' then ['\\', 't']
  else if c.toNat = 8 then ['\\', 'b']
  else if c.toNat = 12 then ['\\', 'f']
  else if c.toNat < 32 then
    ['\\', 'u', '0', '0', Nat.digitChar (c.toNat / 16), Nat.digitChar (c.toNat % 16)]
  else [c]

/-- A string literal. -/
def quoted (s : String) : String :=
  String.ofList ('"' :: s.toList.flatMap escapeChar ++ ['"'])

/-- The white space at the start of a line that lies `depth` levels deep. -/
def indent (depth : Nat) : String :=
  String.ofList (List.replicate (2 * depth) ' ')

/-- Items on lines of their own between two brackets, with commas between them. -/
def bracketed (opening closing : String) (depth : Nat) (items : List String) : String :=
  match items with
  | [] => opening ++ closing
  | _ => opening ++ "\n" ++
      String.intercalate ",\n" (items.map (indent (depth + 1) ++ ·)) ++
      "\n" ++ indent depth ++ closing

mutual
/-- The text of a value, every item and member on a line of its own. -/
def Json.pretty (depth : Nat) : Json → String
  | .null => "null"
  | .bool b => if b then "true" else "false"
  | .int n => toString n
  | .float x => (dataText? x).getD "null"
  | .str s => quoted s
  | .arr items => bracketed "[" "]" depth (Json.prettyItems (depth + 1) items)
  | .obj members => bracketed "\x7b" "\x7d" depth (Json.prettyMembers (depth + 1) members)

/-- The texts of the items of an array. -/
def Json.prettyItems (depth : Nat) : List Json → List String
  | [] => []
  | v :: vs => Json.pretty depth v :: Json.prettyItems depth vs

/-- The texts of the members of an object. -/
def Json.prettyMembers (depth : Nat) : List (String × Json) → List String
  | [] => []
  | (n, v) :: ms => (quoted n ++ ": " ++ Json.pretty depth v) :: Json.prettyMembers depth ms
end

end GoStyle
