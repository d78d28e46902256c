import ScriptTree.Unicode.Alphabetic
import ScriptTree.Unicode.Numeric

/-! # Characters — the classes the grammar distinguishes

    Four sets of characters matter to the scanner: line terminators, blanks
    between tokens, characters that open an identifier and characters that
    continue one.  A fifth, the property `White_Space`, is looked at only
    behind the word `let`; it is not the set of blanks, since it has U+0085
    and the line terminators and lacks U+FEFF. -/

namespace ScriptTree.Character

/-- Characters that end a line: LF, CR, LINE SEPARATOR, PARAGRAPH SEPARATOR. -/
def isLineTerminator (c : Char) : Bool :=
  c == '\n' || c == '\r' || c == '\u2028' || c == '\u2029'

/-- Characters that separate tokens without ending a line. -/
def isBlank (c : Char) : Bool :=
  c == '\t' || c == '\x0b' || c == '\x0c' || c == ' ' || c == '\u00a0' || c == '\ufeff'
    || c == '\u1680' || ('\u2000' ≤ c && c ≤ '\u200a') || c == '\u202f' || c == '\u205f'
    || c == '\u3000'

/-- The property `White_Space`. -/
def isWhiteSpace (c : Char) : Bool :=
  ('\t' ≤ c && c ≤ '\r') || c == ' ' || c == '\u0085' || c == '\u00a0' || c == '\u1680'
    || ('\u2000' ≤ c && c ≤ '\u200a') || c == '\u2028' || c == '\u2029' || c == '\u202f'
    || c == '\u205f' || c == '\u3000'

/-- Characters that open an identifier. -/
def isIdentifierStart (c : Char) : Bool :=
  c == '$' || c == '_' || Unicode.isAlphabetic c

/-- Characters that continue an identifier, joiners included. -/
def isIdentifierPart (c : Char) : Bool :=
  c == '$' || c == '_' || c == '\u200c' || c == '\u200d' || Unicode.isAlphabetic c
    || Unicode.isNumeric c

/-- What opens an identifier may also continue one. -/
theorem isIdentifierPart_of_isIdentifierStart {c : Char}
    (h : isIdentifierStart c = true) : isIdentifierPart c = true := by
  simp only [isIdentifierStart, isIdentifierPart, Bool.or_eq_true] at h ⊢
  rcases h with (h | h) | h <;> simp [h]

/-- The value of a digit in a radix of at most sixteen; `none` for any other character. -/
def digit? (radix : Nat) (c : Char) : Option Nat :=
  let value? : Option Nat :=
    if '0' ≤ c && c ≤ '9' then some (c.toNat - '0'.toNat)
    else if 'a' ≤ c && c ≤ 'f' then some (c.toNat - 'a'.toNat + 10)
    else if 'A' ≤ c && c ≤ 'F' then some (c.toNat - 'A'.toNat + 10)
    else none
  value?.filter fun d => decide (d < radix)

/-- The character is a digit of the radix. -/
def isDigitOf (radix : Nat) (c : Char) : Bool := (digit? radix c).isSome

/-- The number of UTF-16 units a character takes. -/
def utf16Units (c : Char) : Nat := if c.toNat < 0x10000 then 1 else 2

end ScriptTree.Character
