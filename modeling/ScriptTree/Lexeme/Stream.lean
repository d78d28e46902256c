import ScriptTree.Lexeme.Scanner

/-! # Lexemes — the text as a stream of words

    A `Lexeme` is a token together with everything that came to light while
    it was looked for: the comments in front of it and the diagnostics.  A
    character that belongs to no word is reported and skipped.  The stream
    of a text ends with the token for the end of input, and its words,
    comments and skipped characters account for the whole text. -/

namespace ScriptTree

/-- A token with what was found on the way to it. -/
structure Lexeme where
  comments : List Comment
  diagnostics : List Diagnostic
  token : Token
  /-- Nothing is left behind the token. -/
  atEnd : Bool
  /-- The token is `let` and what follows can be declared by it. -/
  opensBinding : Bool
deriving DecidableEq, Repr, Inhabited

namespace Lexeme

/-- Something that `let` can declare stands at the start of the text, white
    space aside: a pattern's bracket or an identifier. -/
def startsBinding (text : List Char) : Bool :=
  match text.dropWhile Character.isWhiteSpace with
  | [] => false
  | x :: _ => x == '[' || x == '{' || Character.isIdentifierStart x

/-- The lexeme of the end of the text, behind the trivia. -/
def ofEnd (t : Trivia) : Lexeme where
  comments := t.comments.toList
  diagnostics := t.diagnostics.toList
  token := ⟨.endOfInput, .point t.cursor.offset, t.newline, ""⟩
  atEnd := true
  opensBinding := false

/-- The lexeme of a word behind the trivia. -/
def ofWord (t : Trivia) (word : Scanned) : Lexeme where
  comments := t.comments.toList
  diagnostics := t.diagnostics.toList ++ word.diagnostics
  token :=
    ⟨word.kind, t.cursor.spanTo word.cursor, t.newline,
      String.ofList (t.cursor.textTo word.cursor)⟩
  atEnd := word.cursor.atEnd
  opensBinding := word.kind == .name "let" && startsBinding word.cursor.rest

end Lexeme

namespace Trivia

/-- Report the character at the cursor as part of no word, and skip it. -/
def skipStray (t : Trivia) (x : Char) : Trivia :=
  { t with
    cursor := t.cursor.next
    diagnostics := t.diagnostics.push (t.cursor.diagnose t.cursor.next (.unexpectedCharacter x)) }

end Trivia

namespace Scanner

/-- Skip trivia and stray characters up to a word or the end of the text. -/
def seek (s : Scanner) (t : Trivia) : Trivia × Option Scanned :=
  let u := t.skip
  match _here : u.cursor.rest with
  | [] => (u, none)
  | x :: _ =>
    match s.word? u.cursor with
    | some word => (u, some word)
    | none => s.seek (u.skipStray x)
termination_by t.cursor.rest.length
decreasing_by
  have left : t.skip.cursor.rest ≠ [] := by
    rw [show t.skip.cursor.rest = _ from _here]
    exact List.cons_ne_nil _ _
  exact Nat.lt_of_lt_of_le (Cursor.length_next_lt left) (Trivia.skip_reaches t).length_le

/-- The next lexeme, and the scanner behind it. -/
def next (s : Scanner) : Lexeme × Scanner :=
  match s.seek (Trivia.start s.cursor) with
  | (t, some word) => (.ofWord t word, s.after word)
  | (t, none) => (.ofEnd t, { s with cursor := t.cursor })

/-- Seeking moves the cursor forward. -/
theorem seek_reaches (s : Scanner) (t : Trivia) : t.cursor.Reaches (s.seek t).1.cursor := by
  fun_induction seek s t with
  | case1 t u h => exact Trivia.skip_reaches t
  | case2 t u x rest h word hw => exact Trivia.skip_reaches t
  | case3 t u x rest h hw ih =>
    exact (Trivia.skip_reaches t).trans ((Cursor.Reaches.next _).trans ih)

/-- What seeking finds is a word where it stopped. -/
theorem word?_of_seek {s : Scanner} {t : Trivia} {word : Scanned}
    (h : (s.seek t).2 = some word) : s.word? (s.seek t).1.cursor = some word := by
  fun_induction seek s t with
  | case1 t u hu => simp at h
  | case2 t u x rest hu found hw =>
    simp only [Option.some.injEq] at h
    subst h
    exact hw
  | case3 t u x rest hu hw ih => exact ih h

theorem ofEnd_isEnd (t : Trivia) : (Lexeme.ofEnd t).token.isEnd = true := by
  simp [Lexeme.ofEnd, Token.isEnd]

/-- Unless the text is at its end, a lexeme leaves fewer characters. -/
theorem next_lt {s : Scanner} (h : ¬ s.next.1.token.isEnd = true) :
    s.next.2.cursor.rest.length < s.cursor.rest.length := by
  unfold next at h ⊢
  split
  · rename_i t word found
    have stands := word?_of_seek (s := s) (t := Trivia.start s.cursor) (by rw [found])
    have before := seek_reaches s (Trivia.start s.cursor)
    rw [found] at stands before
    exact Nat.lt_of_lt_of_le (word?_lt stands) before.length_le
  · rename_i t found
    rw [found] at h
    exact absurd (ofEnd_isEnd t) h

/-- The lexemes from the scanner on, behind those found before. -/
def lexemesAfter (s : Scanner) (found : Array Lexeme) : Array Lexeme :=
  let step := s.next
  if _ends : step.1.token.isEnd then found.push step.1
  else step.2.lexemesAfter (found.push step.1)
termination_by s.cursor.rest.length
decreasing_by exact next_lt _ends

end Scanner

namespace Lexeme

/-- The lexemes of a text; the last one is the end of input. -/
def ofText (text : List Char) : List Lexeme :=
  ((Scanner.start text).lexemesAfter #[]).toList

end Lexeme

/-- What scanning a text gives, without regard to what was found together. -/
structure Lexed where
  tokens : List Token
  comments : List Comment
  diagnostics : List Diagnostic
deriving DecidableEq, Repr, Inhabited

/-- Scan a whole text. -/
def lex (text : List Char) : Lexed :=
  let lexemes := Lexeme.ofText text
  ⟨lexemes.map Lexeme.token, lexemes.flatMap Lexeme.comments,
    lexemes.flatMap Lexeme.diagnostics⟩

end ScriptTree
