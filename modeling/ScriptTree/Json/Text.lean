import ScriptTree.Number.Shortest

/-! # JSON — values and how they are written

    Fields of objects keep their order.  Whole numbers and binary64 numbers
    are kept apart, since they are written differently.

    In a text every element and field stands on a line of its own, indented
    by two blanks a level; empty arrays and objects stay on one line.  A
    quote, a backslash and control characters are escaped, all other
    characters stand for themselves.  Binary64 numbers have the fewest digits
    that read back and always a point or an exponent. -/

namespace ScriptTree

/-! ## Values -/

/-- A JSON value. -/
inductive JsonValue where
  | null
  | boolean (value : Bool)
  | integer (value : Nat)
  /-- A binary64 number; one that is not finite is written as `null`. -/
  | float (value : Float)
  | string (value : String)
  | array (elements : List JsonValue)
  | object (fields : List (String × JsonValue))
deriving Inhabited

namespace JsonValue

/-- A field that is left out when there is nothing to say. -/
def optionalField (name : String) : Option JsonValue → List (String × JsonValue)
  | some value => [(name, value)]
  | none => []

end JsonValue

/-! ## Text -/

/-- How decimal digits are laid out as a number. -/
structure NumberLayout where
  /-- Positional notation is used while the leading digit stands at most
      this many places left of the point. -/
  mostPlaces : Int
  /-- Positional notation is used while fewer than this many zeros stand
      behind the point in front of the first digit. -/
  mostZeros : Int
  /-- What stands in front of an exponent that is not negative. -/
  exponentSign : String
deriving DecidableEq, Repr, Inhabited

/-- Numbers from 10⁻⁵ up to 10¹⁶ are written without an exponent, and every
    exponent has its sign. -/
def NumberLayout.json : NumberLayout := ⟨16, 5, "+"⟩

namespace Number

/-- A number of zeros. -/
def zeros (n : Nat) : String := String.ofList (List.replicate n '0')

/-- An exponent behind its sign. -/
def exponentText (layout : NumberLayout) (n : Int) : String :=
  if n < 0 then s!"-{(-n).toNat}" else layout.exponentSign ++ s!"{n.toNat}"

/-- Digits laid out as a number. -/
def Digits.text (layout : NumberLayout) (d : Digits) : String :=
  let digits := (toString d.digits).toList
  let count := digits.length
  let point : Int := (count : Int) + d.exponent
  if d.exponent ≥ 0 && point ≤ layout.mostPlaces then
    String.ofList digits ++ zeros d.exponent.toNat ++ ".0"
  else if 0 < point && point ≤ layout.mostPlaces then
    String.ofList (digits.take point.toNat) ++ "." ++ String.ofList (digits.drop point.toNat)
  else if -layout.mostZeros < point && point ≤ 0 then
    "0." ++ zeros (-point).toNat ++ String.ofList digits
  else
    let fraction := if count == 1 then "" else "." ++ String.ofList (digits.drop 1)
    String.ofList (digits.take 1) ++ fraction ++ "e" ++ exponentText layout (point - 1)

/-- A finite binary64 number, given by its bits. -/
def textOfBits (layout : NumberLayout) (bits : Nat) : String :=
  let sign := if bits / Nat.pow 2 63 % 2 == 1 then "-" else ""
  let magnitude := bits % Nat.pow 2 63
  sign ++ (if magnitude == 0 then "0.0" else (shortest (.ofBits magnitude)).text layout)

end Number

namespace JsonValue

/-- A hexadecimal digit. -/
def hexDigit (n : Nat) : Char := ("0123456789abcdef".toList[n]?).getD '0'

/-- A character as it stands in a string. -/
def escape (c : Char) : List Char :=
  if c == '"' then ['\\', '"']
  else if c == '\\' then ['\\', '\\']
  else if c == '\x08' then ['\\', 'b']
  else if c == '\x0c' then ['\\', 'f']
  else if c == '\n' then ['\\', 'n']
  else if c == '\r' then ['\\', 'r']
  else if c == '\t' then ['\\', 't']
  else if c.toNat < 0x20 then
    ['\\', 'u', '0', '0', hexDigit (c.toNat / 16), hexDigit (c.toNat % 16)]
  else [c]

/-- A string between quotes. -/
def quote (text : String) : String := "\"" ++ String.ofList (text.toList.flatMap escape) ++ "\""

/-- A line break and the indentation of a level. -/
def newLine (level : Nat) : String := "\n" ++ String.ofList (List.replicate (2 * level) ' ')

/-- The text of a binary64 number. -/
def floatText (x : Float) : String :=
  if x.isFinite then Number.textOfBits .json x.toBits.toNat else "null"

mutual

/-- Write a value, whose inner lines are indented behind `level`. -/
def pretty (level : Nat) : JsonValue → String
  | .null => "null"
  | .boolean true => "true"
  | .boolean false => "false"
  | .integer n => toString n
  | .float x => floatText x
  | .string text => quote text
  | .array [] => "[]"
  | .array (first :: rest) =>
    "[" ++ newLine (level + 1) ++ pretty (level + 1) first ++ prettyElements (level + 1) rest
      ++ newLine level ++ "]"
  | .object [] => "\x7b\x7d"
  | .object (first :: rest) =>
    "\x7b" ++ newLine (level + 1) ++ prettyField (level + 1) first
      ++ prettyFields (level + 1) rest
      ++ newLine level ++ "\x7d"

/-- Write the elements behind the first one. -/
def prettyElements (level : Nat) : List JsonValue → String
  | [] => ""
  | value :: rest => "," ++ newLine level ++ pretty level value ++ prettyElements level rest

/-- Write one field. -/
def prettyField (level : Nat) : String × JsonValue → String
  | (name, value) => quote name ++ ": " ++ pretty level value

/-- Write the fields behind the first one. -/
def prettyFields (level : Nat) : List (String × JsonValue) → String
  | [] => ""
  | field :: rest => "," ++ newLine level ++ prettyField level field ++ prettyFields level rest

end

end JsonValue

end ScriptTree
