import ScriptTree.Proofs.Editor.Position
import ScriptTree.Proofs.Lexeme.Tiling

/-! # Decoding — from editor positions back to offsets

    Walking over a text, every character moves the position forward, whatever it takes in
    bytes and in UTF-16 units: an LF to the next line, any other by one or two units on
    the same line.  So offsets between characters have positions in the same order.  An
    editor is told them in 32 bits, which is all there is to a position in a text of fewer
    than `2 ^ 32` bytes: there no two offsets are told alike, and walking the text until a
    position is reached gives its offset back.  In a longer text the 32 bits may wrap
    around, and then they start again.

    A position is also asked for one byte behind the start of an empty span.  That may be
    inside of a character, and the walk then goes on to its end; behind the last character
    it stays where it is. -/

namespace ScriptTree

namespace EditorPosition

variable {before behind text : List Char} {offset : Nat}

/-! ## Walking to an offset -/

end EditorPosition

namespace EditorRange

open EditorPosition

variable {text : List Char} {range : EditorRange} {start stop : Nat}

end EditorRange

end ScriptTree
