import ScriptTree.Source.Text

/-! # Tables — values of code points

    A table gives values to code points.  It is written as words of
    hexadecimal digits, in ascending order: `a-f` is a range, `a~e` every
    second code point of one, and `=b.c` behind it a value of two numbers.
    A set is a table whose rows have no value.

    A property that few ranges describe is written down as the list of
    these closed ranges, and membership is a plain search. -/

namespace ScriptTree.Unicode

/-- A closed range of code points, first and last. -/
abbrev Range := Nat × Nat

/-- The character lies in one of the ranges. -/
def covers (ranges : List Range) (c : Char) : Bool :=
  ranges.any fun r => decide (r.1 ≤ c.toNat) && decide (c.toNat ≤ r.2)

/-- A range of code points, or every second one of it, with a value. -/
structure Row where
  first : Nat
  last : Nat
  step : Nat
  value : List Nat
deriving DecidableEq, Repr, Inhabited

/-- Rows in ascending order that do not overlap. -/
abbrev Table := Array Row

/-- A number in lower-case hexadecimal digits. -/
def hexadecimal (digits : List Char) : Nat :=
  digits.foldl (fun n c => 16 * n + (if c.isDigit then c.toNat - 0x30 else c.toNat - 0x57)) 0

namespace Row

/-- The row has a value for the code point. -/
def covers (row : Row) (code : Nat) : Bool :=
  row.first ≤ code && code ≤ row.last && (code - row.first) % row.step == 0

/-- The row a word stands for. -/
def ofWord (word : List Char) : Row :=
  let (codes, value) := word.span (· != '=')
  let (first, last) := codes.span fun c => c != '-' && c != '~'
  { first := hexadecimal first
    last := hexadecimal (if last.isEmpty then first else last.drop 1)
    step := if last.head? == some '~' then 2 else 1
    value :=
      if value.isEmpty then [] else (Text.pieces (· == '.') (value.drop 1)).map hexadecimal }

/-- The value at a code point of a row that counts on: the number of the
    first code point rises with the others. -/
def shifted (row : Row) (code : Nat) : List Nat :=
  match row.value with
  | [number] => [number + (code - row.first)]
  | value => value

end Row

namespace Table

/-- The table that lines of words stand for. -/
def ofLines (lines : List String) : Table :=
  (lines.flatMap fun line => (Text.pieces (· == ' ') line.toList).map Row.ofWord).toArray

/-- The row for a code point among those from `low` up to `high`, by halving. -/
def search? (table : Table) (code low high : Nat) : Option Row :=
  if low < high then
    let middle := (low + high) / 2
    match table[middle]? with
    | none => none
    | some row =>
      if code < row.first then search? table code low middle
      else if row.last < code then search? table code (middle + 1) high
      else some row
  else none
termination_by high - low

/-- The row for a character. -/
def row? (table : Table) (c : Char) : Option Row :=
  (search? table c.toNat 0 table.size).filter fun row => row.covers c.toNat

/-- The table has the character. -/
def contains (table : Table) (c : Char) : Bool := (table.row? c).isSome

/-- The value of a character. -/
def value? (table : Table) (c : Char) : Option (List Nat) := (table.row? c).map Row.value

/-- The value of a character in a table whose rows count on. -/
def shifted? (table : Table) (c : Char) : Option (List Nat) :=
  (table.row? c).map fun row => row.shifted c.toNat

end Table

end ScriptTree.Unicode
