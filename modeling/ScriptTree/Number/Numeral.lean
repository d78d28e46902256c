import ScriptTree.Number.Nearest
import ScriptTree.Source.Character

/-! # Numerals — the value of a written number

    A decimal numeral has digits with an optional point and an optional
    exponent, at least one digit in all; its value is the nearest binary64
    number.  Digits of another radix are folded from the left in binary64,
    rounding at every step.  A text that is no numeral has the value that
    is no number. -/

namespace ScriptTree.Number

/-- The number that is none. -/
def notANumber : Float := .ofBits (.ofNat nanBits)

/-- A decimal number `mantissa · 10 ^ exponent`. -/
structure Decimal where
  mantissa : Nat
  exponent : Int
deriving DecidableEq, Repr, Inhabited

/-- The value of decimal digits; other characters do not count. -/
def digitsValue (digits : List Char) : Nat :=
  digits.foldl (fun n c => n * 10 + (c.toNat - '0'.toNat)) 0

namespace Decimal

/-- The nearest binary64 number. -/
def toFloat (d : Decimal) : Float := .ofBits (.ofNat (nearestDecimalBits d.mantissa d.exponent))

/-- The exponent part of a numeral: nothing, or a mark, a sign and digits. -/
def exponentOfText? : List Char → Option Int
  | [] => some 0
  | mark :: rest =>
    if mark == 'e' || mark == 'E' then
      let (negative, digits) : Bool × List Char := match rest with
        | '-' :: digits => (true, digits)
        | '+' :: digits => (false, digits)
        | digits => (false, digits)
      if digits.isEmpty || !digits.all Char.isDigit then none
      else some (if negative then -(digitsValue digits : Int) else digitsValue digits)
    else none

/-- Read a decimal numeral. -/
def ofText? (text : List Char) : Option Decimal :=
  let whole := text.takeWhile Char.isDigit
  let afterWhole := text.dropWhile Char.isDigit
  let (fraction, afterFraction) : List Char × List Char := match afterWhole with
    | '.' :: rest => (rest.takeWhile Char.isDigit, rest.dropWhile Char.isDigit)
    | rest => ([], rest)
  if whole.isEmpty && fraction.isEmpty then none
  else
    (exponentOfText? afterFraction).map fun exponent =>
      ⟨digitsValue (whole ++ fraction), exponent - fraction.length⟩

end Decimal

/-- The value of a decimal numeral. -/
def ofDecimalText (text : List Char) : Float :=
  match Decimal.ofText? text with
  | some d => d.toFloat
  | none => notANumber

/-- The value of digits in a radix, folded in binary64. -/
def ofRadixDigits (radix : Nat) (digits : List Char) : Float :=
  digits.foldl
    (fun acc c =>
      match Character.digit? radix c with
      | some d => acc * Float.ofNat radix + Float.ofNat d
      | none => acc)
    0.0

end ScriptTree.Number
