import ScriptTree.Proofs.Lexeme.Binding
import ScriptTree.Proofs.Source.LineIndex

/-! # Newlines — the mark of a token and the lines of a text

    The scanner marks a token when a line terminator stood anywhere in what was skipped
    in front of it: between words, in a block comment, closed or not, or next to a stray
    character.  The line index counts line breaks, and takes a CR and the LF behind it for
    one.  Both come to the same.  A terminator in what was skipped is either the end of a
    line break itself, or a CR whose LF was skipped as well, since no token begins with
    a line terminator; and a line break that ends between two tokens, even when its CR
    belongs to the first of them, has its last character in what was skipped. -/

namespace ScriptTree

/-! ## What was skipped -/

namespace Trivia

variable {t u v : Trivia} {gap more : List Char}

/-- The characters in between were skipped, and a line terminator among them was noted. -/
structure Crosses (t : Trivia) (gap : List Char) (u : Trivia) : Prop where
  reached : t.cursor.ReachesBy u.cursor gap
  newline : u.newline = (t.newline || gap.any Character.isLineTerminator)

/-- Nothing is crossed. -/
theorem Crosses.refl (t : Trivia) : t.Crosses [] t where
  reached := ⟨rfl, rfl⟩
  newline := (Bool.or_false _).symm

/-- What one skip crosses and then another. -/
theorem Crosses.trans (h : t.Crosses gap u) (k : u.Crosses more v) :
    t.Crosses (gap ++ more) v where
  reached := h.reached.trans k.reached
  newline := by rw [k.newline, h.newline, List.any_append, Bool.or_assoc]

end Trivia

namespace Scanner

variable {text : List Char} {s : Scanner} {lexemes : List Lexeme}

end Scanner

end ScriptTree
