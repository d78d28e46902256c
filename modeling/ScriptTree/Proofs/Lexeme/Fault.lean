import ScriptTree.Proofs.Lexeme.Spelling
import ScriptTree.Proofs.Lexeme.Step

/-! # Faults of the scanner

    What comes to light while lexemes are looked for are faults of the scanner: it
    tells of nothing that only the grammar forbids.  So whoever reads one of these
    messages knows that a rule of the grammar complained. -/

namespace ScriptTree

/-- The fault is one that is found while scanning. -/
def Fault.isLexical : Fault → Bool
  | .unexpectedCharacter _ => true
  | .unterminatedComment => true
  | .unterminatedTemplate => true
  | .unterminatedString => true
  | .unterminatedRegExp => true
  | .badEscape => true
  | .missingDigits _ => true
  | .invalidNumber => true
  | .identifierAfterNumber => true
  | _ => false

/-- All that is reported was found while scanning. -/
def Diagnostic.Lexical (diagnostics : List Diagnostic) : Prop :=
  ∀ d ∈ diagnostics, d.fault.isLexical = true

namespace Diagnostic.Lexical

variable {ds es : List Diagnostic}

/-- No diagnostic is a lexical one. -/
theorem nil : Lexical [] := fun _ => nofun

/-- The diagnostics of two parts. -/
theorem append (h : Lexical ds) (k : Lexical es) : Lexical (ds ++ es) :=
  fun d hd => (List.mem_append.mp hd).elim (h d) (k d)

/-- A single diagnostic. -/
theorem one {d : Diagnostic} (h : d.fault.isLexical = true) : Lexical [d] :=
  fun _ hd => List.mem_singleton.mp hd ▸ h

/-- A diagnostic more, as the scanner keeps them. -/
theorem push {found : Array Diagnostic} {d : Diagnostic} (h : Lexical found.toList)
    (k : d.fault.isLexical = true) : Lexical (found.push d).toList := by
  rw [Array.toList_push]
  exact h.append (one k)

end Diagnostic.Lexical

open Diagnostic

/-! ## Trivia -/

namespace Trivia

variable {t u : Trivia}

/-- A step over trivia reports an unclosed comment at most. -/
theorem step?_lexical (h : Lexical t.diagnostics.toList) (step : t.step? = some u) :
    Lexical u.diagnostics.toList := by
  unfold step? at step
  split at step
  · cases step
  · cases step
    exact h
  · cases step
    rw [blockComment]
    simp only
    split
    · exact h
    · exact h.push rfl
  · split at step
    · cases step
      exact h
    · split at step
      · cases step
        exact h
      · cases step

/-- So does skipping all of them. -/
theorem skip_lexical (t : Trivia) (h : Lexical t.diagnostics.toList) :
    Lexical t.skip.diagnostics.toList := by
  fun_induction skip t with
  | case1 t => exact h
  | case2 t u step ih => exact ih (step?_lexical h step)

end Trivia

/-! ## Words -/

/-- An escape sequence reports that it is malformed at most. -/
theorem StringLiteral.Body.escaped_lexical (b : Body) (h : Lexical b.diagnostics) :
    Lexical b.escaped.diagnostics := by
  rw [escaped]
  simp only
  split
  · exact h
  · exact h
  · exact h.append (.one rfl)

/-- The rest of a string literal reports that, or that it is not closed. -/
theorem StringLiteral.Body.scan_lexical (quote : Char) (opening : Cursor) (b : Body)
    (h : Lexical b.diagnostics) : Lexical (b.scan quote opening).diagnostics := by
  fun_induction scan quote opening b with
  | case1 b => exact h.append (.one rfl)
  | case2 b => exact h.append (.one rfl)
  | case3 b => exact h
  | case4 b _ _ _ _ _ _ ih => exact ih (b.escaped_lexical h)
  | case5 b _ _ _ _ _ _ ih => exact ih h

/-- A chunk of a template reports that it is not closed at most. -/
theorem Template.scan_lexical (isHead : Bool) (body : Cursor) :
    Lexical (scan isHead body).diagnostics := by
  rw [scan]
  split
  · exact .nil
  · exact .nil
  · exact .one rfl

/-- A regular expression reports that it is not closed at most. -/
theorem RegExpLiteral.scan_lexical (c : Cursor) : Lexical (scan c).diagnostics := by
  rw [scan]
  simp only
  split
  · exact .nil
  · exact .one rfl

/-- The digits of a number report that some are missing or are not of the radix. -/
theorem Numeral.scanDigits_lexical (c : Cursor) : Lexical (scanDigits c).diagnostics := by
  rw [scanDigits]
  split
  · rw [scanRadix]
    simp only
    split
    · exact .one rfl
    · exact .nil
  · split
    · exact .nil
    · rw [scanDecimal]
      simp only
      split
      · split
        · exact .nil
        · exact .one rfl
      · exact .nil

/-- A number reports an identifier that begins right behind it as well. -/
theorem Numeral.scan_lexical (c : Cursor) : Lexical (scan c).diagnostics := by
  rw [scan]
  split
  · exact (scanDigits_lexical c).append (.one rfl)
  · exact scanDigits_lexical c

/-- A name reports nothing. -/
theorem Scanner.scanWord_lexical (c : Cursor) : Lexical (scanWord c).diagnostics := by
  rw [scanWord]
  split
  · exact .nil
  · exact .nil

/-! ## Lexemes -/

namespace Scanner

/-- Whatever word is read, its diagnostics are lexical. -/
theorem word?_lexical {s : Scanner} {c : Cursor} {word : Scanned} (h : s.word? c = some word) :
    Lexical word.diagnostics := by
  cases reads_of_word? h with
  | template => exact Template.scan_lexical true _
  | chunk => exact Template.scan_lexical false _
  | string => exact StringLiteral.Body.scan_lexical _ _ _ .nil
  | number => exact Numeral.scan_lexical _
  | regExp => exact RegExpLiteral.scan_lexical _
  | name => exact scanWord_lexical _
  | punctuator => exact .nil

/-- Seeking a word adds stray characters to what the trivia reported. -/
theorem seek_lexical (s : Scanner) (t : Trivia) (h : Lexical t.diagnostics.toList) :
    Lexical (s.seek t).1.diagnostics.toList := by
  fun_induction seek s t with
  | case1 t => exact t.skip_lexical h
  | case2 t => exact t.skip_lexical h
  | case3 t u x rest here none ih => exact ih ((t.skip_lexical h).push rfl)

/-- All that a lexeme reports is lexical. -/
theorem next_lexical (s : Scanner) : Lexical s.next.1.diagnostics := by
  have trivia := s.seek_lexical (.start s.cursor) .nil
  rw [next]
  split
  · rename_i t word found
    have stands := @word?_of_seek s (.start s.cursor) word (by rw [found])
    rw [found] at trivia
    exact trivia.append (word?_lexical stands)
  · rename_i t found
    rw [found] at trivia
    exact trivia

end Scanner

/-- Whatever is reported of the lexemes of a text was found while scanning. -/
theorem Lexeme.lexical_ofText {text : List Char} :
    ∀ l ∈ ofText text, Lexical l.diagnostics :=
  forall_ofText fun s _ => s.next_lexical

end ScriptTree
