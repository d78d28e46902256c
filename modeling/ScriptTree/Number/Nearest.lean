/-! # The nearest binary64 number

    A decimal numeral denotes a ratio of two natural numbers.  Among the
    binary64 numbers, which are m · 2^q with m < 2^53 and q ≥ −1074, the
    nearest one is found by exact division; a tie goes to the even m, and
    what is too large becomes infinity.  The encoding is such that the bits
    of m · 2^q are (q + 1074) · 2^52 + m, also when rounding carries m up to
    the next power of two. -/

namespace ScriptTree.Number

/-- The bits of positive infinity. -/
def infinityBits : Nat := 0x7ff0000000000000

/-- The bits of the canonical number that is none. -/
def nanBits : Nat := 0x7ff8000000000000

/-- The quotient rounded to the nearest integer, a tie to the even one. -/
def roundHalfEven (num den : Nat) : Nat :=
  let quotient := num / den
  let twice := 2 * (num % den)
  if twice > den || (twice == den && quotient % 2 == 1) then quotient + 1 else quotient

/-- Numerator and denominator of `num / den` measured in units of `2 ^ q`. -/
def inUnitsOf (q : Int) (num den : Nat) : Nat × Nat :=
  if q ≥ 0 then (num, den * Nat.pow 2 q.toNat) else (num * Nat.pow 2 (-q).toNat, den)

/-- The exponent of the unit in the last place at `num / den`. -/
def unitExponent (num den : Nat) : Int :=
  let guess : Int := max ((num.log2 : Int) - (den.log2 : Int) - 53) (-1074)
  let scaled := inUnitsOf guess num den
  if scaled.1 / scaled.2 ≥ Nat.pow 2 53 then guess + 1 else guess

/-- The bits of the binary64 number nearest to `num / den`. -/
def nearestBits (num den : Nat) : Nat :=
  if num == 0 then 0
  else
    let q := unitExponent num den
    let scaled := inUnitsOf q num den
    let bits := (q + 1074).toNat * Nat.pow 2 52 + roundHalfEven scaled.1 scaled.2
    min bits infinityBits

/-- The bits nearest to `mantissa · 10 ^ exponent`.  Exponents far outside
    the range decide the answer without the power being computed. -/
def nearestDecimalBits (mantissa : Nat) (exponent : Int) : Nat :=
  if mantissa == 0 then 0
  else if exponent > 310 then infinityBits
  else if exponent + (mantissa.log2 : Int) + 1 < -330 then 0
  else if exponent ≥ 0 then nearestBits (mantissa * Nat.pow 10 exponent.toNat) 1
  else nearestBits mantissa (Nat.pow 10 (-exponent).toNat)

end ScriptTree.Number
