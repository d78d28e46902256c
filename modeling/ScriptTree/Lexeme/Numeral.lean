import ScriptTree.Lexeme.Cursor
import ScriptTree.Number.Numeral

/-! # Numeric literals

    `0x`, `0o` and `0b` open digits of another radix.  A zero in front of
    further digits makes them octal, unless one of them is an eight or a
    nine.  Everything else is a decimal numeral; an exponent mark without
    digits is read over and reported.  Directly behind a literal no
    identifier may begin. -/

namespace ScriptTree.Numeral

/-- The radix that a two-character opening announces. -/
def radix? : List Char → Option Nat
  | '0' :: mark :: _ =>
    if mark == 'x' || mark == 'X' then some 16
    else if mark == 'o' || mark == 'O' then some 8
    else if mark == 'b' || mark == 'B' then some 2
    else none
  | _ => none

/-- A zero with a digit behind it. -/
def hasLeadingZero : List Char → Bool
  | '0' :: digit :: _ => digit.isDigit
  | _ => false

/-- Behind the whole part and the fraction of a decimal numeral. -/
def skipSignificand (c : Cursor) : Cursor :=
  let whole := c.next
  let point :=
    if c.peek? == some '.' then whole
    else
      let digits := whole.skipWhile Char.isDigit
      if digits.peek? == some '.' then digits.next else digits
  point.skipWhile Char.isDigit

/-- An exponent mark with digits behind it, signed or not. -/
def hasExponentDigits : List Char → Bool
  | _ :: sign :: rest =>
    sign.isDigit || ((sign == '+' || sign == '-') && (rest.head?.any Char.isDigit))
  | _ => false

/-- Behind an exponent: its mark, its sign and its digits. -/
def skipExponent (c : Cursor) : Cursor :=
  let marked := c.next
  let signed :=
    if marked.peek? == some '+' || marked.peek? == some '-' then marked.next else marked
  signed.skipWhile Char.isDigit

/-- Read a literal of a radix behind its two-character opening. -/
def scanRadix (radix : Nat) (c : Cursor) : Scanned :=
  let digits := c.skip 2
  let stop := digits.skipWhile (Character.isDigitOf radix)
  let text := digits.textTo stop
  ⟨.number (Number.ofRadixDigits radix text), stop,
    if text.isEmpty then [c.diagnose stop (.missingDigits radix)] else []⟩

/-- Read digits behind a leading zero. -/
def scanLegacy (c : Cursor) : Scanned :=
  let stop := c.skipWhile Char.isDigit
  let digits := c.next.textTo stop
  let value :=
    if digits.all (Character.isDigitOf 8) then Number.ofRadixDigits 8 digits
    else Number.ofDecimalText digits
  ⟨.number value, stop, []⟩

/-- Read a decimal literal. -/
def scanDecimal (c : Cursor) : Scanned :=
  let significand := skipSignificand c
  if significand.peek? == some 'e' || significand.peek? == some 'E' then
    if hasExponentDigits significand.rest then
      let stop := skipExponent significand
      ⟨.number (Number.ofDecimalText (c.textTo stop)), stop, []⟩
    else
      let stop := significand.next
      ⟨.number (Number.ofDecimalText (c.textTo stop)), stop, [c.diagnose stop .invalidNumber]⟩
  else
    ⟨.number (Number.ofDecimalText (c.textTo significand)), significand, []⟩

/-- Read a literal, without looking at what follows. -/
def scanDigits (c : Cursor) : Scanned :=
  match radix? c.rest with
  | some radix => scanRadix radix c
  | none => if hasLeadingZero c.rest then scanLegacy c else scanDecimal c

/-- Read the numeric literal at the cursor. -/
def scan (c : Cursor) : Scanned :=
  let word := scanDigits c
  if word.cursor.peek?.any Character.isIdentifierStart then
    { word with
      diagnostics := word.diagnostics ++ [c.diagnose word.cursor .identifierAfterNumber] }
  else word

theorem skipSignificand_reaches (c : Cursor) : c.next.Reaches (skipSignificand c) := by
  refine Cursor.Reaches.trans ?_ (.skipWhile _ _)
  simp only
  split
  · exact .refl _
  · split
    · exact (Cursor.Reaches.skipWhile _ _).trans (.next _)
    · exact .skipWhile _ _

theorem skipExponent_reaches (c : Cursor) : c.Reaches (skipExponent c) := by
  refine Cursor.Reaches.trans (.next c) (Cursor.Reaches.trans ?_ (.skipWhile _ _))
  split
  · exact .next _
  · exact .refl _

/-- A numeric literal takes at least its first character. -/
theorem scanDigits_reaches (c : Cursor) : c.next.Reaches (scanDigits c).cursor := by
  unfold scanDigits
  split
  · exact (Cursor.Reaches.next _).trans (.skipWhile _ _)
  · split
    · rename_i h
      obtain ⟨offset, rest⟩ := c
      simp only [hasLeadingZero] at h
      split at h
      · rename_i digit rest' _
        have zero : ('0' : Char).isDigit = true := by decide
        simp only [scanLegacy, Cursor.skipWhile, Cursor.skipFrom, zero, if_true, h, Cursor.next]
        exact (Cursor.Reaches.cons _ digit rest').trans (.skipFrom _ _ _)
      · simp at h
    · unfold scanDecimal
      simp only
      split
      · split
        · exact (skipSignificand_reaches c).trans (skipExponent_reaches _)
        · exact (skipSignificand_reaches c).trans (.next _)
      · exact skipSignificand_reaches c

/-- A numeric literal takes at least its first character. -/
theorem scan_reaches (c : Cursor) : c.next.Reaches (scan c).cursor := by
  unfold scan
  simp only
  split
  · exact scanDigits_reaches c
  · exact scanDigits_reaches c

end ScriptTree.Numeral
