import Mathlib.Data.List.TakeWhile
import ScriptTree.Proofs.Lexeme.Locality
import ScriptTree.Proofs.Spacing.Basic

/-! # Trailing blanks — what they change in the lexemes of a text

    Blanks behind a text are one more piece of trivia in front of its end, or belong to the
    line comment that the text ends with.  The words in front of them are the same, and
    what a `let` declares is the same.  The one thing that changes is whether anything
    stands behind the last word. -/

namespace ScriptTree

namespace Character

/-- A blank separates words. -/
theorem isSeparator_of_isBlank {x : Char} (h : isBlank x = true) : isSeparator x = true :=
  Bool.or_eq_true_iff.mpr (.inl h)

/-- Blanks end no line. -/
theorem isLineTerminator_blank {x : Char} (h : isBlank x = true) : isLineTerminator x = false := by
  have both : (isBlank x && isLineTerminator x) = false :=
    eq_false_of_isSeparator (f := fun x => isBlank x && isLineTerminator x) (by decide)
      (isSeparator_of_isBlank h)
  simpa [h] using both

end Character

/-! ## Trivia -/

namespace Trivia

variable {t u v : Trivia} {gap : List Char} {c d : Cursor}

/-- One has come as far as the other in a text that has blanks behind it, or both are at the
    end of theirs. -/
structure Padded (gap : List Char) (t u : Trivia) : Prop where
  newline : u.newline = t.newline
  diagnostics : u.diagnostics = t.diagnostics
  rest : u.cursor.rest = t.cursor.rest ++ gap ∨ t.cursor.rest = [] ∧ u.cursor.rest = []

/-- The characters ahead are the same, with the gap behind them. -/
theorem Padded.ahead (h : Padded gap t u) {x : Char} {rest : List Char}
    (here : t.cursor.rest = x :: rest) : u.cursor.rest = x :: (rest ++ gap) := by
  obtain same | ⟨none, -⟩ := h.rest
  · rw [same, here, List.cons_append]
  · rw [here] at none
    cases none

/-- A comment that is closed is closed with more behind it as well. -/
theorem findClose_padded (h : (findClose c.offset c.rest).2 = true)
    (there : d.rest = c.rest ++ gap) : ∃ body behind, c.rest = body ++ '*' :: '/' :: behind ∧
      findClose c.offset c.rest = (c.past body ('*' :: '/' :: behind), true) ∧
      findClose d.offset d.rest = (d.past body ('*' :: '/' :: (behind ++ gap)), true) := by
  obtain ⟨offset, chars⟩ := c
  obtain ⟨offset', chars'⟩ := d
  obtain rfl : chars' = chars ++ gap := there
  simp only at h ⊢
  fun_induction findClose offset chars generalizing offset' with
  | case1 offset => cases h
  | case2 offset rest => exact ⟨[], rest, rfl, rfl, by simp [findClose, Cursor.past]⟩
  | case3 offset x rest other ih =>
      obtain ⟨body, behind, split, one, two⟩ := ih h (offset' + x.utf8Size)
      refine ⟨x :: body, behind, congrArg (x :: ·) split, ?_, ?_⟩
      · rw [one]
        simp [Cursor.past, Nat.add_assoc]
      -- The closing mark cannot be made of the last character and the gap: it was found earlier.
      · have goes : findClose offset' (x :: rest ++ gap) =
            findClose (offset' + x.utf8Size) (rest ++ gap) := by
          rw [List.cons_append, findClose]
          rintro tail rfl hr
          subst split
          cases body with
          | nil => cases hr
          | cons y body =>
              obtain ⟨rfl, -⟩ := List.cons.inj hr
              exact other _ rfl rfl
        rw [goes, two]
        simp [Cursor.past, Nat.add_assoc]

/-- A comment that runs to the end of its line takes the blanks with it at the end of the
    text. -/
theorem lineComment_padded (blank : ∀ x ∈ gap, Character.isBlank x = true) {rest : List Char}
    (here : t.cursor.rest = '/' :: '/' :: rest) (h : Padded gap t u) :
    Padded gap t.lineComment u.lineComment := by
  have skips : t.cursor.skip 2 = t.cursor.past ['/', '/'] rest :=
    Cursor.skip_two_eq_past here
  have skips' : u.cursor.skip 2 = u.cursor.past ['/', '/'] (rest ++ gap) :=
    Cursor.skip_two_eq_past (h.ahead here)
  refine ⟨h.newline, h.diagnostics, ?_⟩
  simp only [lineComment, skips, skips']
  obtain ⟨text, behind, split, stop, all, stops⟩ := Cursor.skipWhile_parts
    (fun x => !Character.isLineTerminator x) (t.cursor.past ['/', '/'] rest)
  obtain rfl : rest = text ++ behind := split
  rw [stop]
  -- The comment may reach to the end of the text, and then swallows the gap.
  cases behind with
  | nil =>
      have more : ∀ x ∈ text ++ gap, (!Character.isLineTerminator x) = true := by
        intro x hx
        obtain front | back := List.mem_append.mp hx
        · exact all x front
        · rw [Character.isLineTerminator_blank (blank x back)]
          rfl
      right
      refine ⟨rfl, ?_⟩
      rw [List.append_nil, Cursor.skipWhile_eq (List.append_nil _).symm more rfl]
      rfl
  -- Else it ends at a line end, in front of the gap.
  | cons x behind =>
      left
      rw [List.append_assoc, @Cursor.skipWhile_eq _ text (x :: behind ++ gap) _ rfl all stops]
      rfl

/-- What skipping a comment does that is closed behind its text. -/
theorem blockComment_of_found {body behind : List Char} (skips : t.cursor.skip 2 = c)
    (here : c.rest = body ++ '*' :: '/' :: behind)
    (found : findClose c.offset c.rest = (c.past body ('*' :: '/' :: behind), true)) :
    t.blockComment.newline = (t.newline || body.any Character.isLineTerminator) ∧
      t.blockComment.diagnostics = t.diagnostics ∧ t.blockComment.cursor.rest = behind := by
  have last : (c.past body ('*' :: '/' :: behind)).skip 2 = c.past (body ++ ['*', '/']) behind :=
    (Cursor.skip_two_eq_past rfl).trans Cursor.past_past
  have text := Cursor.textTo_past here
  simp only [blockComment, skips, found, ↓reduceIte, last, text]
  exact ⟨trivial, trivial, rfl⟩

/-- A block comment that is closed is skipped alike in front of the gap. -/
theorem blockComment_padded {rest : List Char} (here : t.cursor.rest = '/' :: '*' :: rest)
    (quiet : t.blockComment.diagnostics = #[]) (h : Padded gap t u) :
    Padded gap t.blockComment u.blockComment := by
  have skips : t.cursor.skip 2 = t.cursor.past ['/', '*'] rest :=
    Cursor.skip_two_eq_past here
  have skips' : u.cursor.skip 2 = u.cursor.past ['/', '*'] (rest ++ gap) :=
    Cursor.skip_two_eq_past (h.ahead here)
  have closed : (findClose (t.cursor.skip 2).offset (t.cursor.skip 2).rest).2 = true := by
    by_contra notClosed
    simp [blockComment, notClosed] at quiet
  rw [skips] at closed
  obtain ⟨body, behind, split, one, two⟩ := findClose_padded closed
    (d := u.cursor.past ['/', '*'] (rest ++ gap)) rfl
  obtain ⟨line, reports, stop⟩ := blockComment_of_found skips split one
  obtain ⟨line', reports', stop'⟩ := blockComment_of_found skips'
    (by rw [Cursor.past_rest, show rest = _ from split]; simp) two
  exact ⟨by rw [line, line', h.newline], by rw [reports, reports', h.diagnostics],
    .inl (by rw [stop, stop'])⟩

/-- Where nothing is reported, one piece of trivia leads to the next in both texts. -/
theorem step?_padded (blank : ∀ x ∈ gap, Character.isBlank x = true) (h : Padded gap t u)
    (stepped : t.step? = some v) (quiet : v.diagnostics = #[]) :
    ∃ w, u.step? = some w ∧ Padded gap v w := by
  obtain ⟨x, rest, here⟩ : ∃ x rest, t.cursor.rest = x :: rest := by
    refine List.exists_cons_of_ne_nil fun none => ?_
    rw [step?, none] at stepped
    cases stepped
  have there := h.ahead here
  -- A separator is skipped alike; of comments only the last one can see the gap.
  by_cases separates : Character.isSeparator x = true
  · rw [step?_separator here separates] at stepped
    cases stepped
    exact ⟨_, step?_separator there separates, by rw [h.newline], h.diagnostics, .inl rfl⟩
  · rw [step?] at stepped ⊢
    rw [here] at stepped
    rw [there]
    split at stepped
    · cases stepped
    · rename_i tail same
      cases same
      cases stepped
      exact ⟨_, rfl, lineComment_padded blank here h⟩
    · rename_i tail same
      cases same
      cases stepped
      exact ⟨_, rfl, blockComment_padded here quiet h⟩
    · rename_i y tail _ _ same
      cases same
      rw [Character.isSeparator, Bool.or_eq_true, not_or] at separates
      rw [if_neg separates.2, if_neg separates.1] at stepped
      cases stepped

/-- Blanks are skipped without a trace. -/
theorem skip_blanks (blank : ∀ x ∈ gap, Character.isBlank x = true) (here : t.cursor.rest = gap) :
    t.skip = { t with cursor := t.cursor.past gap [] } := by
  induction gap generalizing t with
  | nil =>
      have none : t.step? = none := by rw [step?, here]
      rw [skip_of_none none, Cursor.past_nil here]
  | cons x rest ih =>
      obtain ⟨first, others⟩ := List.forall_mem_cons.mp blank
      rw [skip_of_some (step?_separator here (Character.isSeparator_of_isBlank first)),
        ih others rfl, Character.isLineTerminator_blank first]
      simp

/-- All trivia is skipped in both texts, up to the same word or to the end. -/
theorem skip_padded (blank : ∀ x ∈ gap, Character.isBlank x = true) (h : Padded gap t u)
    (quiet : t.skip.diagnostics = #[]) :
    u.skip.newline = t.skip.newline ∧ u.skip.diagnostics = #[] ∧
      (t.skip.cursor.rest = [] → u.skip.cursor.rest = []) ∧
        (t.skip.cursor.rest ≠ [] → u.skip.cursor.rest = t.skip.cursor.rest ++ gap) := by
  fun_induction skip t generalizing u with
  | case1 t settled =>
      -- No trivia are left: either the text is at its end, and the gap is skipped, or a word
      -- begins.
      rcases here : t.cursor.rest with _ | ⟨x, rest⟩
      · have there : ∃ more, u.cursor.rest = more ∧ ∀ x ∈ more, Character.isBlank x = true := by
          obtain same | ⟨-, none⟩ := h.rest
          · exact ⟨gap, by rw [same, here, List.nil_append], blank⟩
          · exact ⟨[], none, List.forall_mem_nil _⟩
        obtain ⟨more, there, blanks⟩ := there
        rw [skip_blanks blanks there]
        exact ⟨h.newline, h.diagnostics.trans quiet, fun _ => rfl, fun some => absurd rfl some⟩
      · have there := h.ahead here
        have beside : Text.Beside [] ([] ++ gap) := .longer fun x hx =>
          Character.isSeparator_of_isBlank (blank x hx)
        have whole : t.cursor.rest = x :: (rest ++ []) := by rw [here, List.append_nil]
        rw [skip_of_none (step?_beside whole settled beside.stops there)]
        exact ⟨h.newline, h.diagnostics.trans quiet, fun none => absurd none (List.cons_ne_nil _ _),
          fun _ => there⟩
  | case2 t v stepped ih =>
      obtain ⟨tiles, laid⟩ := v.skip_lays
      -- What one step reports stays reported, so the step was quiet.
      have mild : v.diagnostics = #[] := by
        refine Array.eq_empty_iff_forall_not_mem.mpr fun d hd => ?_
        have kept := laid.reported d (.inl hd)
        rw [quiet] at kept
        exact absurd kept (Array.not_mem_empty d)
      obtain ⟨w, goes, onward⟩ := step?_padded blank h stepped mild
      rw [skip_of_some goes]
      exact ih onward quiet

end Trivia

/-! ## Lexemes -/

namespace Lexeme

/-- The second lexeme stands in a text that has blanks behind it, where the first one stands
    in the text without them. -/
structure Trails (gap : List Char) (l m : Lexeme) : Prop where
  alike : l.Alike m
  atEnd : m.atEnd = (l.atEnd && (l.token.isEnd || gap.isEmpty))

/-- Blanks declare nothing. -/
theorem startsBinding_blanks {gap : List Char} (blank : ∀ x ∈ gap, Character.isBlank x = true) :
    startsBinding gap = false := by
  rw [startsBinding]
  split
  · rfl
  · rename_i x others there
    have inside : x ∈ gap := (List.dropWhile_suffix _).subset (there ▸ List.mem_cons_self)
    have separates := Character.isSeparator_of_isBlank (blank x inside)
    have noBracket : (x == '[' || x == '{') = false :=
      Character.eq_false_of_isSeparator (f := fun x => x == '[' || x == '{') (by decide) separates
    rw [noBracket, Bool.false_or]
    refine Bool.eq_false_iff.mpr fun start => ?_
    have part := Character.isIdentifierPart_of_isIdentifierStart start
    rw [Character.isIdentifierPart_separator separates] at part
    cases part

/-- Behind a text they change nothing in what stands at its start. -/
theorem startsBinding_padded {gap : List Char} (blank : ∀ x ∈ gap, Character.isBlank x = true)
    (rest : List Char) : startsBinding (rest ++ gap) = startsBinding rest := by
  cases ahead : rest.dropWhile Character.isWhiteSpace with
  | nil =>
      have white := List.dropWhile_eq_nil_iff.mp ahead
      rw [startsBinding_append white, startsBinding_blanks blank, startsBinding, ahead]
  | cons x others =>
      rw [startsBinding, startsBinding, List.dropWhile_append, ahead]
      rfl

end Lexeme

namespace Scanner

variable {s t : Scanner} {u v : Trivia} {w : Scanned} {gap : List Char} {lexemes : List Lexeme}

/-- The end of the text is found behind the gap. -/
theorem ofEnd_trails (line : v.newline = u.newline) (quiet : u.diagnostics = #[])
    (quiet' : v.diagnostics = #[]) : (Lexeme.ofEnd u).Trails gap (.ofEnd v) where
  alike := ⟨⟨rfl, rfl, line.symm⟩, rfl, by simp [Lexeme.ofEnd, quiet, quiet']⟩
  atEnd := by simp [Lexeme.ofEnd, Token.isEnd]

/-- A word in front of the gap is the same word. -/
theorem ofWord_trails (blank : ∀ x ∈ gap, Character.isBlank x = true) (line : v.newline = u.newline)
    (quiet : u.diagnostics = #[]) (quiet' : v.diagnostics = #[]) (clean : w.diagnostics = [])
    (found : s.word? u.cursor = some w) {text : List Char}
    (reach : u.cursor.ReachesBy w.cursor text)
    (there : v.cursor.rest = text ++ (w.cursor.rest ++ gap)) :
    (Lexeme.ofWord u w).Trails gap
      (.ofWord v ⟨w.kind, v.cursor.past text (w.cursor.rest ++ gap), []⟩) where
  alike := by
    refine ⟨⟨rfl, ?_, line.symm⟩, ?_, by simp [Lexeme.ofWord, quiet, quiet', clean]⟩
    · simp only [Lexeme.ofWord, Cursor.textTo_eq reach, Cursor.textTo_past there]
    · simp only [Lexeme.ofWord, Cursor.past_rest, Lexeme.startsBinding_padded blank]
  atEnd := by
    rw [ofWord_isEnd found, Bool.false_or]
    show (w.cursor.rest ++ gap).isEmpty = (w.cursor.rest.isEmpty && gap.isEmpty)
    cases w.cursor.rest <;> rfl

/-- The same words are found with blanks behind the text. -/
theorem Lexes.padded (blank : ∀ x ∈ gap, Character.isBlank x = true) (h : s.Lexes lexemes)
    (agrees : s.Agrees t) (there : t.cursor.rest = s.cursor.rest ++ gap) :
    ∃ more, t.Lexes more ∧ List.Forall₂ (Lexeme.Trails gap) lexemes more := by
  induction h generalizing t with
  | @stop s u skipped quiet ends =>
      have start : (Trivia.start s.cursor).Padded gap (.start t.cursor) := ⟨rfl, rfl, .inl there⟩
      obtain ⟨line, quiet', rest, -⟩ := Trivia.skip_padded blank start (skipped ▸ quiet)
      rw [skipped] at line rest
      exact ⟨_, .stop rfl quiet' (rest ends), .cons (ofEnd_trails line quiet quiet') .nil⟩
  | @word s u w lexemes skipped quiet found clean behind ih =>
      have start : (Trivia.start s.cursor).Padded gap (.start t.cursor) := ⟨rfl, rfl, .inl there⟩
      obtain ⟨line, quiet', -, rest⟩ := Trivia.skip_padded blank start (skipped ▸ quiet)
      rw [skipped] at line rest
      obtain ⟨text, reach⟩ := reaches_of_word? found
      have here : (Trivia.start t.cursor).skip.cursor.rest = text ++ (w.cursor.rest ++ gap) := by
        rw [rest (word?_rest_ne_nil found), reach.1, List.append_assoc]
      -- A blank behind the word does not lengthen it.
      have beside : Text.Beside w.cursor.rest (w.cursor.rest ++ gap) :=
        .longer fun x hx => Character.isSeparator_of_isBlank (blank x hx)
      have stands := word?_beside agrees found clean reach beside here
      have trails := ofWord_trails blank line quiet quiet' clean found reach here
      generalize same : Scanned.mk _ _ _ = word at stands trails
      have kind : word.kind = w.kind := same ▸ rfl
      have rest : word.cursor.rest = w.cursor.rest ++ gap := same ▸ rfl
      obtain ⟨more, reads, others⟩ := ih (agrees.after kind) rest
      exact ⟨_, .word rfl quiet' stands (same ▸ rfl) reads, .cons trails others⟩

end Scanner

/-- TRAILING BLANKS CHANGE NO TOKEN: a text without a diagnostic has alike lexemes with
    blanks behind it, and only its last word is no longer the last thing in the text. -/
theorem Lexeme.ofText_padded {text gap : List Char} (clean : (lex text).diagnostics = [])
    (blank : ∀ x ∈ gap, Character.isBlank x = true) :
    List.Forall₂ (Trails gap) (ofText text) (ofText (text ++ gap)) ∧
      (lex (text ++ gap)).diagnostics = [] := by
  obtain ⟨more, reads, trails⟩ := (lexes_ofText clean).padded blank
    (t := .start (text ++ gap)) ⟨rfl, rfl, rfl⟩ rfl
  rw [lex, ofText_eq reads]
  exact ⟨trails, List.flatMap_eq_nil_iff.mpr reads.clean⟩

end ScriptTree
