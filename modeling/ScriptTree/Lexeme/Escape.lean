import ScriptTree.Lexeme.Cursor
import ScriptTree.Source.Character

/-! # Escape sequences

    What stands behind a backslash in a string literal: a letter for a
    control character, a code in two or four hexadecimal digits or between
    braces, a line break that continues the literal, or any other character
    for itself.  A code is looked at alone, so half of a surrogate pair is
    malformed, as is a code beyond the last character. -/

namespace ScriptTree

/-- What an escape sequence stands for. -/
inductive Escape where
  | character (c : Char)
  /-- The literal goes on without a character. -/
  | nothing
  | malformed
deriving DecidableEq, Repr, Inhabited

namespace Escape

/-- The letters for control characters. -/
def letter? : Char → Option Char
  | 'n' => some '\n'
  | 't' => some '\t'
  | 'r' => some '\r'
  | 'b' => some '\x08'
  | 'f' => some '\x0c'
  | 'v' => some '\x0b'
  | _ => none

/-- The value of hexadecimal digits. -/
def hexValue (digits : List Char) : Nat :=
  digits.foldl (fun n c => n * 16 + (Character.digit? 16 c).getD 0) 0

/-- The character of a code, if it has one. -/
def ofCode (code : Nat) : Escape :=
  if h : code.isValidChar then .character (.ofNatAux code h) else .malformed

/-- Read a code of exactly `count` hexadecimal digits. -/
def readFixed (count : Nat) (c : Cursor) : Escape × Cursor :=
  let digits := c.rest.take count
  if digits.length == count && digits.all (Character.isDigitOf 16) then
    (ofCode (hexValue digits), c.skip count)
  else (.malformed, c)

/-- Read a code between braces, behind the opening one. -/
def readBraced (c : Cursor) : Escape × Cursor :=
  let stop := c.skipWhile (Character.isDigitOf 16)
  let digits := c.textTo stop
  if stop.peek? == some '}' then
    (if digits.isEmpty then .malformed else ofCode (hexValue digits), stop.next)
  else (.malformed, stop)

/-- Read the escape sequence at the cursor, behind its backslash. -/
def read (c : Cursor) : Escape × Cursor :=
  match c.rest with
  | [] => (.nothing, c)
  | x :: rest =>
    let behind := c.next
    match letter? x with
    | some control => (.character control, behind)
    | none =>
      if x == '0' && !rest.head?.any Char.isDigit then (.character '\x00', behind)
      else if x == 'x' then readFixed 2 behind
      else if x == 'u' then
        if behind.peek? == some '{' then readBraced behind.next else readFixed 4 behind
      else if x == '\r' then
        (.nothing, if behind.peek? == some '\n' then behind.next else behind)
      else if x == '\n' || x == '\u2028' || x == '\u2029' then (.nothing, behind)
      else (.character x, behind)

theorem readFixed_reaches (count : Nat) (c : Cursor) : c.Reaches (readFixed count c).2 := by
  unfold readFixed
  simp only
  split
  · exact .skip _ _
  · exact .refl _

theorem readBraced_reaches (c : Cursor) : c.Reaches (readBraced c).2 := by
  unfold readBraced
  simp only
  split
  · exact (Cursor.Reaches.skipWhile _ _).trans (.next _)
  · exact .skipWhile _ _

/-- Reading an escape moves the cursor forward. -/
theorem read_reaches (c : Cursor) : c.Reaches (read c).2 := by
  unfold read
  split
  · exact .refl _
  · simp only
    have behind := Cursor.Reaches.next c
    split
    · exact behind
    · split
      · exact behind
      · split
        · exact behind.trans (readFixed_reaches _ _)
        · split
          · split
            · exact behind.trans ((Cursor.Reaches.next _).trans (readBraced_reaches _))
            · exact behind.trans (readFixed_reaches _ _)
          · split
            · refine behind.trans ?_
              split
              · exact .next _
              · exact .refl _
            · split
              · exact behind
              · exact behind

end Escape

end ScriptTree
