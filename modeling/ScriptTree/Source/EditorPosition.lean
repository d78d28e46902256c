import ScriptTree.Source.Character
import ScriptTree.Source.Span

/-! # Editor positions — lines and UTF-16 units

    Editors address a text by a line, from zero, and a number of UTF-16
    units on it.  Only LF ends a line here; a CR counts as a unit.  Both are
    counted in 32 bits. -/

namespace ScriptTree

/-- A line, from zero, and UTF-16 units on it. -/
structure EditorPosition where
  line : UInt32
  character : UInt32
deriving DecidableEq, Repr, Inhabited

/-- A stretch of text between two editor positions. -/
structure EditorRange where
  start : EditorPosition
  stop : EditorPosition
deriving DecidableEq, Repr, Inhabited

namespace EditorPosition

/-- The position behind one more character. -/
def after (p : EditorPosition) (c : Char) : EditorPosition :=
  if c == '\n' then ⟨p.line + 1, 0⟩
  else ⟨p.line, p.character + UInt32.ofNat (Character.utf16Units c)⟩

/-- Walk over the characters that start before `offset`, the first of which
    starts at `reached`. -/
def walk (offset : Nat) (p : EditorPosition) (reached : Nat) : List Char → EditorPosition
  | [] => p
  | c :: rest =>
    if reached ≥ offset then p else walk offset (p.after c) (reached + c.utf8Size) rest

/-- The position of a byte offset; an offset past the end means the end. -/
def ofOffset (text : List Char) (offset : Nat) : EditorPosition :=
  walk offset ⟨0, 0⟩ 0 text

end EditorPosition

namespace EditorRange

/-- The range of a span, widened to one byte when it is empty. -/
def ofSpan (text : List Char) (span : Span) : EditorRange :=
  ⟨EditorPosition.ofOffset text span.start,
   EditorPosition.ofOffset text (max span.stop (span.start + 1))⟩

end EditorRange

end ScriptTree
