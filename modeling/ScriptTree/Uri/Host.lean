import ScriptTree.Source.Text
import ScriptTree.Uri.Domain
import ScriptTree.Uri.Percent

/-! # Hosts — names and addresses of machines

    Schemes with rules of their own name a machine by a domain, by four
    numbers or by an address in brackets; other schemes take any text
    without separators. -/

namespace ScriptTree.Uri.Host

/-- A decimal digit. -/
def isDecimal (c : Char) : Bool := Character.isDigitOf 10 c

/-- A hexadecimal digit. -/
def isHexadecimal (c : Char) : Bool := Character.isDigitOf 16 c

/-- The value of digits in a radix. -/
def valueOf (radix : Nat) (digits : List Char) : Nat :=
  digits.foldl (fun n c => radix * n + (Character.digit? radix c).getD 0) 0

/-- A number in lower-case digits of a radix of at most sixteen. -/
def digitsOf (radix n : Nat) : List Char := Nat.toDigits radix n

/-! ## Addresses of four numbers -/

/-- A number of an address: decimal, octal behind a zero, hexadecimal behind
    `0x`. -/
def number? (part : List Char) : Option Nat :=
  match part with
  | [] => none
  | '0' :: x :: digits =>
    if x == 'x' || x == 'X' then
      if digits.all isHexadecimal then some (valueOf 16 digits) else none
    else if (x :: digits).all (Character.isDigitOf 8) then some (valueOf 8 (x :: digits))
    else none
  | digits => if digits.all isDecimal then some (valueOf 10 digits) else none

/-- The parts of a domain, without the empty one behind a last dot. -/
def labels (domain : List Char) : List (List Char) :=
  let parts := Text.pieces (· == '.') domain
  if parts.length > 1 && parts.getLast? == some [] then parts.dropLast else parts

/-- The domain is to be read as an address of four numbers. -/
def endsInNumber (domain : List Char) : Bool :=
  match (labels domain).getLast? with
  | none => false
  | some last => (!last.isEmpty && last.all isDecimal) || (number? last).isSome

/-- An address of four numbers; the last number fills the places of those
    that are left out. -/
def address4? (domain : List Char) : Option Nat := do
  let numbers ← (labels domain).mapM number?
  let last ← numbers.getLast?
  let others := numbers.dropLast
  if others.length > 3 || others.any (· > 255)
      || last ≥ Nat.pow 256 (4 - others.length) then none
  else
    let high := others.foldl (fun n x => 256 * n + x) 0
    some (high * Nat.pow 256 (4 - others.length) + last)

/-- An address of four numbers as it is written. -/
def text4 (address : Nat) : List Char :=
  let place (k : Nat) : List Char := digitsOf 10 (address / Nat.pow 256 k % 256)
  place 3 ++ ['.'] ++ place 2 ++ ['.'] ++ place 1 ++ ['.'] ++ place 0

/-! ## Addresses in brackets -/

/-- Four decimal numbers at the end of an address in brackets: two groups. -/
def dottedGroups? (part : List Char) : Option (List Nat) := do
  let numbers ← (Text.pieces (· == '.') part).mapM fun piece =>
    if piece.isEmpty || !piece.all isDecimal || (piece.length > 1 && piece.head? == some '0')
      || valueOf 10 piece > 255 then none
    else some (valueOf 10 piece)
  match numbers with
  | [a, b, c, d] => some [256 * a + b, 256 * c + d]
  | _ => none

/-- A group of at most four hexadecimal digits. -/
def group? (part : List Char) : Option Nat :=
  if part.isEmpty || part.length > 4 || !part.all isHexadecimal then none
  else some (valueOf 16 part)

/-- Groups between colons; only the last one may be dotted. -/
def groups? : List (List Char) → Option (List Nat)
  | [] => some []
  | [last] => if last.contains '.' then dottedGroups? last else (group? last).map ([·])
  | part :: rest => do return (← group? part) :: (← groups? rest)

/-- The groups of a text between colons; the empty text has none. -/
def groupsOf? (text : List Char) : Option (List Nat) :=
  if text.isEmpty then some [] else groups? (Text.pieces (· == ':') text)

/-- A text in front of and behind its first double colon. -/
def cutDoubleColon (seen : List Char) : List Char → Option (List Char × List Char)
  | ':' :: ':' :: rest => some (seen.reverse, rest)
  | c :: rest => cutDoubleColon (c :: seen) rest
  | [] => none

/-- The eight groups of an address in brackets; a double colon stands for one
    or more groups that are zero. -/
def address6? (text : List Char) : Option (List Nat) :=
  match cutDoubleColon [] text with
  | none => (groupsOf? text).filter fun groups => groups.length == 8
  | some (before, behind) => do
    if before.contains '.' then none
    else
      let front ← groupsOf? before
      let back ← groupsOf? behind
      if front.length + back.length > 7 then none
      else some (front ++ List.replicate (8 - front.length - back.length) 0 ++ back)

/-- How many zeros a list starts with. -/
def zeroRun (groups : List Nat) : Nat := (groups.takeWhile (· == 0)).length

/-- The longest run of zeros. -/
def longestZeroRun : List Nat → Nat
  | [] => 0
  | g :: rest => max (zeroRun (g :: rest)) (longestZeroRun rest)

/-- Groups between colons. -/
def joinGroups (groups : List Nat) : List Char :=
  [':'].intercalate (groups.map (digitsOf 16))

/-- Groups with the first run of `run` zeros replaced by a double colon. -/
def elide (run : Nat) (seen : List Nat) : List Nat → List Char
  | [] => joinGroups seen.reverse
  | g :: rest =>
    if zeroRun (g :: rest) == run then
      joinGroups seen.reverse ++ [':', ':'] ++ joinGroups ((g :: rest).drop run)
    else elide run (g :: seen) rest

/-- An address in brackets as it is written: of the runs of two or more zeros
    the first longest is replaced by a double colon. -/
def text6 (groups : List Nat) : List Char :=
  let run := longestZeroRun groups
  ['['] ++ (if run < 2 then joinGroups groups else elide run [] groups) ++ [']']

/-! ## Hosts -/

/-- A character that no host has. -/
def isSeparator (c : Char) : Bool :=
  c.toNat == 0 || "\t\n\r #/:<>?@[\\]^|".toList.contains c

/-- A host in brackets, if the text is one. -/
def bracketed? (text : List Char) : Option (List Char) :=
  if text.getLast? == some ']' then (address6? text.tail.dropLast).map text6 else none

/-- A host as schemes with rules of their own write it; `none` if there is no
    such host. -/
def special? (text : List Char) : Option (List Char) :=
  if text.head? == some '[' then bracketed? text
  else do
    let domain ← Domain.ascii? (← unescape? text)
    if domain.isEmpty then none
    else if endsInNumber domain then (address4? domain).map text4
    else some domain

/-- A host as other schemes write it. -/
def general? (text : List Char) : Option (List Char) :=
  if text.head? == some '[' then bracketed? text
  else if text.any isSeparator then none
  else some (escape .opaquePath text)

end ScriptTree.Uri.Host
