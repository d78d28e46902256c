/-! # Punycode — labels of host names in ASCII

    The ASCII characters of a label come first; then, for every other
    character in ascending order, stands how far an enumeration of all
    insertions has to go on to insert it.  The distances are numerals with
    thirty-six digits whose thresholds follow a bias, adapted to the
    distances written so far.  `encode` writes a label, `decode?` reads it. -/

namespace ScriptTree.Uri.Punycode

/-- A digit: letters stand for 0 to 25, decimal digits for 26 to 35. -/
def digit (n : Nat) : Char :=
  if n < 26 then Char.ofNat ('a'.toNat + n) else Char.ofNat ('0'.toNat + n - 26)

/-- The threshold of the digit at a position, which counts in steps of 36. -/
def threshold (position bias : Nat) : Nat := max 1 (min 26 (position - bias))

/-- A distance as a numeral. -/
def numeral (bias position distance : Nat) : List Char :=
  let t := threshold position bias
  if distance < t then [digit distance]
  else
    digit (t + (distance - t) % (36 - t))
      :: numeral bias (position + 36) ((distance - t) / (36 - t))
termination_by distance
decreasing_by
  have bounded : 1 ≤ threshold position bias ∧ threshold position bias ≤ 26 := by
    unfold threshold; omega
  calc (distance - threshold position bias) / (36 - threshold position bias)
      ≤ distance - threshold position bias := Nat.div_le_self _ _
    _ < distance := by omega

/-- Scale a distance down; counts the steps of 36. -/
def scale (distance steps : Nat) : Nat :=
  if 455 < distance then scale (distance / 35) (steps + 36)
  else steps + 36 * distance / (distance + 38)
termination_by distance
decreasing_by exact Nat.div_lt_self (by omega) (by omega)

/-- The bias behind a distance, with so many characters written. -/
def adapt (distance written : Nat) (isFirst : Bool) : Nat :=
  let distance := if isFirst then distance / 700 else distance / 2
  scale (distance + distance / written) 0

/-- An encoding under way. -/
structure Progress where
  written : List Char
  distance : Nat
  bias : Nat
  handled : Nat

/-- Pass a character of the label while `code` is being inserted. -/
def pass (basic code : Nat) (p : Progress) (c : Char) : Progress :=
  if c.toNat < code then { p with distance := p.distance + 1 }
  else if c.toNat == code then
    { written := p.written ++ numeral p.bias 36 p.distance
      distance := 0
      bias := adapt p.distance (p.handled + 1) (p.handled == basic)
      handled := p.handled + 1 }
  else p

/-- Insert the characters of the ascending `codes`, the next possible one
    being `next`. -/
def insertAll (label : List Char) (basic : Nat) : List Nat → Nat → Progress → Progress
  | [], _, p => p
  | code :: codes, next, p =>
    let p := { p with distance := p.distance + (code - next) * (p.handled + 1) }
    let p := label.foldl (pass basic code) p
    insertAll label basic codes (code + 1) { p with distance := p.distance + 1 }

/-- A label in ASCII. -/
def encode (label : List Char) : List Char :=
  let basic := label.filter fun c => c.toNat < 0x80
  let codes := ((label.map Char.toNat).filter (0x80 ≤ ·)).mergeSort.eraseDups
  let p := insertAll label basic.length codes 0x80 ⟨[], 0, 72, basic.length⟩
  (if basic.isEmpty then [] else basic ++ ['-']) ++ p.written

/-! ## Reading -/

/-- The number a digit stands for, in capitals or small letters. -/
def digitValue? (c : Char) : Option Nat :=
  if c.isDigit then some (c.toNat - '0'.toNat + 26)
  else if c.isAlpha then some (c.toLower.toNat - 'a'.toNat)
  else none

/-- Numbers stay below this bound. -/
def bound : Nat := 0x100000000

/-- The distance a numeral at the start of a text stands for, and the rest;
    `none` if the text ends inside the numeral or a number is too large. -/
def distance? (bias position weight distance : Nat) : List Char → Option (Nat × List Char)
  | [] => none
  | c :: rest => do
    let digit ← digitValue? c
    let distance := distance + digit * weight
    let t := threshold position bias
    if distance ≥ bound then none
    else if digit < t then some (distance, rest)
    else if weight * (36 - t) ≥ bound then none
    else distance? bias (position + 36) (weight * (36 - t)) distance rest

/-- A numeral takes at least one digit. -/
theorem length_lt_of_distance? {bias position weight distance value : Nat}
    {text rest : List Char}
    (h : distance? bias position weight distance text = some (value, rest)) :
    rest.length < text.length := by
  induction text generalizing position weight distance with
  | nil => simp [distance?] at h
  | cons c tail ih =>
    simp only [distance?, Option.bind_eq_bind, Option.bind_eq_some_iff] at h
    obtain ⟨digit, _, h⟩ := h
    split at h
    · simp at h
    · split at h
      · simp only [Option.some.injEq, Prod.mk.injEq] at h
        simp [← h.2]
      · split at h
        · simp at h
        · exact Nat.lt_succ_of_lt (ih h)

/-- Insert the characters that the numerals of a text stand for into a label:
    the next one may be `code`, in front of the character at `place`. -/
def insertNumerals? (label : List Char) (code place bias : Nat) (text : List Char) :
    Option (List Char) :=
  if text.isEmpty then some label
  else
    match h : distance? bias 36 1 0 text with
    | none => none
    | some (distance, rest) =>
      let size := label.length + 1
      let code := code + (place + distance) / size
      let place' := (place + distance) % size
      if code.isValidChar then
        insertNumerals? (label.insertIdx place' (Char.ofNat code)) code (place' + 1)
          (adapt distance size (place == 0)) rest
      else none
termination_by text.length
decreasing_by exact length_lt_of_distance? h

/-- The label a text in ASCII stands for, if it is Punycode. -/
def decode? (text : List Char) : Option (List Char) :=
  let (behind, upTo) := text.reverse.span (· != '-')
  let basic := (upTo.drop 1).reverse
  if basic.isEmpty then insertNumerals? [] 0x80 0 72 text
  else insertNumerals? basic 0x80 0 72 behind.reverse

end ScriptTree.Uri.Punycode
