import ScriptTree.Proofs.Lexeme.Locality

/-! # Re-spacing — the tokens of a text, set apart anew

    Of the trivia between two tokens only the mark for a line break goes on to the reader.
    If the tokens of a text are written out again with a line break where there was one and
    a space everywhere else, the same tokens are read: each is told by its own characters
    and the state of the scanner, which its predecessors alone have made, and none of them
    goes on across a separator. -/

namespace ScriptTree

/-- What to write in front of a token: a line break if one was crossed, and else a space,
    which the end of the text can do without. -/
def Token.gap (t : Token) : List Char :=
  if t.newlineBefore then ['\n'] else if t.isEnd then [] else [' ']

/-- The tokens of a text, written out again with nothing but gaps between them. -/
def respaced (text : List Char) : List Char :=
  (lex text).tokens.flatMap fun t => t.gap ++ Text.slice text t.span

/-- The same for lexemes, which hold what their tokens are written with. -/
def Lexeme.respaced (lexemes : List Lexeme) : List Char :=
  lexemes.flatMap fun l => l.token.gap ++ l.token.text.toList

/-- Tokens are set apart lexeme by lexeme. -/
theorem respaced_eq (text : List Char) : respaced text = Lexeme.respaced (Lexeme.ofText text) := by
  rw [respaced, lex, Lexeme.respaced, List.flatMap_map]
  refine congrArg List.flatten (List.map_congr_left fun l there => ?_)
  rw [Lexeme.ofText_spelledIn there, String.toList_ofList]

/-- Between two tokens stands one separator, which ends a line if the second one is marked;
    the end needs none. -/
theorem Token.gap_cases (t : Token) :
    t.gap = [] ∧ t.newlineBefore = false ∧ t.isEnd = true ∨
      ∃ x, t.gap = [x] ∧ Character.isSeparator x = true ∧
        Character.isLineTerminator x = t.newlineBefore := by
  unfold gap
  cases t.newlineBefore with
  | true => exact .inr ⟨'\n', rfl, rfl, rfl⟩
  | false =>
      cases t.isEnd with
      | true => exact .inl ⟨rfl, rfl, rfl⟩
      | false => exact .inr ⟨' ', rfl, rfl, rfl⟩

/-- A gap is skipped, and nothing more if no trivia stands behind it. -/
theorem Trivia.skip_gap {c : Cursor} {rest : List Char} (t : Token) (here : c.rest = t.gap ++ rest)
    (settled : step? ⟨c.past t.gap rest, t.newlineBefore, #[], #[]⟩ = none) :
    (start c).skip = ⟨c.past t.gap rest, t.newlineBefore, #[], #[]⟩ := by
  obtain ⟨empty, line, -⟩ | ⟨x, one, separates, line⟩ := t.gap_cases
  · rw [empty, List.nil_append] at here
    rw [empty, Cursor.past_nil here, line] at settled ⊢
    exact skip_of_none settled
  · rw [one] at here settled ⊢
    rw [skip_of_some (step?_separator here separates), ← skip_of_none settled, ← line]
    rfl

/-- The end is written as nothing. -/
@[simp] theorem Lexeme.ofEnd_text (u : Trivia) : (ofEnd u).token.text = "" := rfl

/-- What is written out again begins with a separator, or it is nothing. -/
theorem Scanner.Lexes.respaced_head? {s : Scanner} {lexemes : List Lexeme} (h : s.Lexes lexemes) :
    (Lexeme.respaced lexemes).head?.all Character.isSeparator = true := by
  have first (l : Lexeme) (behind : List Lexeme) (filled : l.token.gap ≠ []) :
      (Lexeme.respaced (l :: behind)).head?.all Character.isSeparator = true := by
    obtain ⟨empty, -⟩ | ⟨x, one, separates, -⟩ := l.token.gap_cases
    · exact absurd empty filled
    · simp [Lexeme.respaced, one, separates]
  cases h with
  | @stop _ u skipped quiet ends =>
      by_cases empty : (Lexeme.ofEnd u).token.gap = []
      · rw [show Lexeme.respaced [Lexeme.ofEnd u] = [] by simp [Lexeme.respaced, empty]]
        rfl
      · exact first _ [] empty
  | @word _ u w lexemes skipped quiet here clean behind =>
      refine first _ lexemes fun empty => ?_
      obtain ⟨-, -, ends⟩ | ⟨x, one, -⟩ := (Lexeme.ofWord u w).token.gap_cases
      · rw [ofWord_isEnd here] at ends
        cases ends
      · rw [empty] at one
        cases one

/-- What of a lexeme goes on to its second reading. -/
def Lexeme.essence (l : Lexeme) : TokenKind × Bool := (l.token.kind, l.token.newlineBefore)

/-- Lexemes are read again from what they are written with, one after the other. -/
theorem Scanner.Lexes.again {s t : Scanner} {lexemes : List Lexeme} (h : s.Lexes lexemes)
    (agrees : s.Agrees t) (here : t.cursor.rest = Lexeme.respaced lexemes) :
    ∃ again, t.Lexes again ∧ again.map Lexeme.essence = lexemes.map Lexeme.essence ∧
      ∀ l ∈ again, l.comments = [] := by
  induction h generalizing t with
  | @stop s u skipped quiet ends =>
      have whole : t.cursor.rest = (Lexeme.ofEnd u).token.gap ++ [] := by
        simpa [Lexeme.respaced, Lexeme.ofEnd] using here
      have skipped := Trivia.skip_gap _ whole rfl
      exact ⟨_, .stop skipped rfl rfl, rfl, by simp [Lexeme.ofEnd]⟩
  | @word s u w lexemes skipped quiet found clean behind ih =>
      obtain ⟨x, chars, first⟩ := List.exists_cons_of_ne_nil (word?_rest_ne_nil found)
      obtain ⟨more, onward⟩ := word?_reaches found
      have reach : u.cursor.ReachesBy w.cursor (x :: more) :=
        (Cursor.ReachesBy.next first).trans onward
      have head := behind.respaced_head?
      generalize hl : Lexeme.ofWord u w = l at here
      have written : l.token.text.toList = x :: more := by
        rw [← hl, Lexeme.ofWord, String.toList_ofList, Cursor.textTo_eq reach]
      have whole : t.cursor.rest = l.token.gap ++ (x :: (more ++ Lexeme.respaced lexemes)) := by
        simp [here, Lexeme.respaced, written]
      have settled : u.step? = none := skipped ▸ Trivia.step?_skip _
      have skips := Trivia.skip_gap l.token whole
        (Trivia.step?_beside reach.1 settled (Text.Beside.parted head).stops rfl)
      obtain ⟨v, stands, kind, plain, ends⟩ : ∃ v,
          t.word? (t.cursor.past l.token.gap (x :: (more ++ Lexeme.respaced lexemes))) = some v ∧
            v.kind = w.kind ∧ v.diagnostics = [] ∧ v.cursor.rest = Lexeme.respaced lexemes :=
        ⟨_, word?_beside agrees found clean reach (.parted head) rfl, rfl, rfl, rfl⟩
      obtain ⟨again, reads, same, bare⟩ := ih (agrees.after kind) ends
      refine ⟨_, .word skips rfl stands plain reads, ?_, List.forall_mem_cons.mpr ⟨rfl, bare⟩⟩
      rw [List.map_cons, List.map_cons, same, ← hl]
      exact congrArg (List.cons · _) (Prod.ext kind rfl)

/-- RE-SPACING: if the lexing of a text gives no diagnostic, its tokens, written out again
    with a line break in front of those that had one and a space in front of the others,
    are read as the same tokens with the same marks, without a diagnostic and without
    comments. -/
theorem lex_respaced {text : List Char} (clean : (lex text).diagnostics = []) :
    let again := lex (respaced text)
    again.diagnostics = [] ∧ again.comments = [] ∧
      again.tokens.map Token.kind = (lex text).tokens.map Token.kind ∧
        again.tokens.map Token.newlineBefore = (lex text).tokens.map Token.newlineBefore := by
  obtain ⟨lexemes, reads, same, bare⟩ := (Lexeme.lexes_ofText clean).again
    (t := .start (respaced text)) ⟨rfl, rfl, rfl⟩ (respaced_eq text)
  have whole : Lexeme.ofText (respaced text) = lexemes := Lexeme.ofText_eq reads
  have kinds := congrArg (List.map Prod.fst) same
  have lines := congrArg (List.map Prod.snd) same
  simp only [List.map_map] at kinds lines
  simp only [lex, whole, List.map_map]
  exact ⟨List.flatMap_eq_nil_iff.mpr reads.clean, List.flatMap_eq_nil_iff.mpr bare, kinds, lines⟩

/-- A comment goes, a slash stays a division, and a template goes on behind its brace. -/
theorem lex_respaced_template :
    let text := "a=1/2// c\n`x${b}y`".toList
    (lex text).diagnostics = [] ∧ respaced text = " a = 1 / 2\n`x${ b }y`".toList ∧
      (lex (respaced text)).tokens.map Token.kind = (lex text).tokens.map Token.kind := by
  have clean : (lex "a=1/2// c\n`x${b}y`".toList).diagnostics = [] := by decide +kernel
  obtain ⟨-, -, kinds, -⟩ := lex_respaced clean
  exact ⟨clean, by decide +kernel, kinds⟩

end ScriptTree
