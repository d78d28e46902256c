/-! # The fewest digits that read back

    Of the decimals that are nearer to a binary64 number than to any other,
    the one with the fewest digits is written; of two such the nearer, and
    of two equally near the even one.  A number is m · 2^q, and the reals
    that round to it reach half a unit to either side, or a quarter downwards
    where the units below are half as large; the ends count when m is even.

    On the grid of decimals with n digits only the two neighbours of the
    number can lie in that interval, if any does.  So the grids are tried in
    turn, in exact integer arithmetic. -/

namespace ScriptTree.Number

/-- A positive binary number `mantissa · 2 ^ exponent`. -/
structure Binary where
  mantissa : Nat
  exponent : Int
deriving DecidableEq, Repr, Inhabited

/-- A decimal number `digits · 10 ^ exponent`. -/
structure Digits where
  digits : Nat
  exponent : Int
deriving DecidableEq, Repr, Inhabited

/-- The finite binary number that bits stand for, sign aside. -/
def Binary.ofBits (bits : Nat) : Binary :=
  let fraction : Nat := bits % Nat.pow 2 52
  let scale : Nat := bits / Nat.pow 2 52 % Nat.pow 2 11
  if scale == 0 then ⟨fraction, -1074⟩ else ⟨fraction + Nat.pow 2 52, (scale : Int) - 1075⟩

/-- The number and the ends of its interval, over a common denominator. -/
structure Interval where
  low : Nat
  value : Nat
  high : Nat
  denominator : Nat
  /-- The ends round to the number. -/
  closed : Bool
deriving DecidableEq, Repr, Inhabited

namespace Interval

/-- The reals that round to a binary number. -/
def ofBinary (b : Binary) : Interval :=
  let below := if b.mantissa == Nat.pow 2 52 && b.exponent > -1074 then 1 else 2
  let scale := b.exponent - 2
  let factor := Nat.pow 2 scale.toNat
  ⟨(4 * b.mantissa - below) * factor, 4 * b.mantissa * factor, (4 * b.mantissa + 2) * factor,
    Nat.pow 2 (-scale).toNat, b.mantissa % 2 == 0⟩

/-- The same interval measured in units of `10 ^ exponent`. -/
def inUnits (i : Interval) (exponent : Int) : Interval :=
  let factor := Nat.pow 10 (-exponent).toNat
  ⟨i.low * factor, i.value * factor, i.high * factor,
    i.denominator * Nat.pow 10 exponent.toNat, i.closed⟩

/-- The integer lies in the interval. -/
def contains (i : Interval) (n : Nat) : Bool :=
  let point := n * i.denominator
  if i.closed then i.low ≤ point && point ≤ i.high else i.low < point && point < i.high

/-- The integer in the interval that is nearest to the value, among its two
    neighbours; a tie goes to the even one. -/
def nearest? (i : Interval) : Option Nat :=
  let down := i.value / i.denominator
  let up := down + 1
  match i.contains down, i.contains up with
  | true, true =>
    let remainder := i.value - down * i.denominator
    let twice := 2 * remainder
    if twice < i.denominator || (twice == i.denominator && down % 2 == 0) then some down
    else some up
  | true, false => some down
  | false, true => some up
  | false, false => none

/-- The exponent of the leading decimal digit of the value. -/
def leadingExponent (i : Interval) : Int :=
  let guess : Int := ((i.value.log2 : Int) - (i.denominator.log2 : Int)) * 30103 / 100000
  let atLeast (e : Int) : Bool :=
    i.value * Nat.pow 10 (-e).toNat ≥ i.denominator * Nat.pow 10 e.toNat
  if atLeast (guess + 1) then guess + 1
  else if atLeast guess then guess
  else guess - 1

/-- Try grids of more and more digits. -/
def search (i : Interval) (leading : Int) : Nat → Nat → Digits
  | 0, _ => ⟨0, 0⟩
  | tries + 1, count =>
    let exponent := leading - (count : Int) + 1
    match (i.inUnits exponent).nearest? with
    | some digits => ⟨digits, exponent⟩
    | none => search i leading tries (count + 1)

end Interval

/-- Drop trailing zeros. -/
def Digits.normalize (d : Digits) : Nat → Digits
  | 0 => d
  | n + 1 =>
    if d.digits != 0 && d.digits % 10 == 0 then normalize ⟨d.digits / 10, d.exponent + 1⟩ n else d

/-- The fewest digits that read back as a positive binary number. -/
def shortest (b : Binary) : Digits :=
  let interval := Interval.ofBinary b
  (interval.search interval.leadingExponent 17 1).normalize 20

end ScriptTree.Number
