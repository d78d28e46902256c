import Mathlib.Data.List.Chain
import ScriptTree.Proofs.Lexeme.Separation
import ScriptTree.Proofs.Lexeme.Spelling
import ScriptTree.Proofs.Lexeme.Step

/-! # What a `let` declares — the characters behind it and the next token

    Whether a `let` declares something is read off the characters behind it.  If only
    white space stands between it and the next token, that token alone tells, for no
    word begins with white space.  A comment in between tells nothing of the sort. -/

namespace ScriptTree

/-! ## No word begins with white space -/

namespace Character

/-- The characters from the tab to the CR are blanks or end a line. -/
theorem row_cases {x : Char} (low : '\t' ≤ x) (high : x ≤ '\r') :
    isBlank x = true ∨ isLineTerminator x = true := by
  rw [Char.le_def, UInt32.le_iff_toNat_le] at low high
  change 9 ≤ x.toNat at low
  change x.toNat ≤ 13 at high
  obtain h | h | h | h | h : x.toNat = 9 ∨ x.toNat = 10 ∨ x.toNat = 11 ∨ x.toNat = 12 ∨
    x.toNat = 13 := by omega
  all_goals
    rw [← Char.ofNat_toNat x, h]
    decide

/-- White space is skipped as trivia, but for the character of the next line. -/
theorem skipped_of_isWhiteSpace {x : Char} (h : isWhiteSpace x = true) :
    isBlank x = true ∨ isLineTerminator x = true ∨ x = '\u0085' := by
  simp only [isWhiteSpace, Bool.or_eq_true, Bool.and_eq_true, decide_eq_true_eq, beq_iff_eq,
    or_assoc] at h
  obtain ⟨low, high⟩ | rfl | rfl | rfl | rfl | range | rfl | rfl | rfl | rfl | rfl := h
  any_goals decide
  · exact (row_cases low high).imp_right .inl
  · left
    simp only [isBlank, range, decide_true, Bool.and_true, Bool.or_true, Bool.true_or]

end Character

namespace Trivia

/-- Behind all trivia there are none. -/
theorem step?_skip (t : Trivia) : t.skip.step? = none := by
  fun_induction skip t with
  | case1 t none => exact none
  | case2 t u stepped ih => exact ih

end Trivia

namespace Scanner

/-- Where a word is sought, it is sought behind all trivia. -/
theorem step?_seek (s : Scanner) (t : Trivia) : (s.seek t).1.step? = none := by
  fun_induction seek s t with
  | case1 t u none => exact t.step?_skip
  | case2 t u x rest here word found => exact t.step?_skip
  | case3 t u x rest here none ih => exact ih

/-- A word that stands behind the trivia begins with no white space. -/
theorem word?_starts {s : Scanner} {t : Trivia} {word : Scanned} (settled : t.step? = none)
    (h : s.word? t.cursor = some word) :
    ∃ x rest, t.cursor.rest = x :: rest ∧ Character.isWhiteSpace x = false := by
  obtain ⟨x, rest, here⟩ := List.exists_cons_of_ne_nil (word?_rest_ne_nil h)
  refine ⟨x, rest, here, Bool.eq_false_iff.mpr fun white => ?_⟩
  obtain ⟨notBlank, notLine⟩ := Bool.or_eq_false_iff.mp ((Trivia.step?_eq_none here).mp settled).1
  obtain blank | line | rfl := Character.skipped_of_isWhiteSpace white
  · rw [notBlank] at blank
    cases blank
  · rw [notLine] at line
    cases line
  · rw [word?_of_not_ascii here (by decide) (by decide +kernel)] at h
    cases h

end Scanner

/-! ## What the next token tells -/

namespace Lexeme

/-- White space in front does not change what is looked for. -/
theorem startsBinding_append {gap : List Char} (white : ∀ x ∈ gap, Character.isWhiteSpace x = true)
    (rest : List Char) : startsBinding (gap ++ rest) = startsBinding rest := by
  rw [startsBinding, List.dropWhile_append_of_pos white, startsBinding]

/-- The first other character tells. -/
theorem startsBinding_cons {x : Char} (h : Character.isWhiteSpace x = false) (rest : List Char) :
    startsBinding (x :: rest) = (x == '[' || x == '{' || Character.isIdentifierStart x) := by
  rw [startsBinding, List.dropWhile_cons, if_neg (Bool.eq_false_iff.mp h)]

/-- What stands between two tokens. -/
def gap (text : List Char) (l m : Lexeme) : List Char :=
  Text.slice text ⟨l.token.span.stop, m.token.span.start⟩

/-- Whether the first lexeme declares something is told by the token of the second, if
    only white space stands between them. -/
def Tells (text : List Char) (l m : Lexeme) : Prop :=
  (∀ x ∈ gap text l m, Character.isWhiteSpace x = true) →
    l.opensBinding = (l.token.kind == .name "let" && startsBinding m.token.text.toList)

end Lexeme

namespace Scanner

open Lexeme

/-- The next token starts behind the scanner and tells what can be declared there. -/
theorem next_starts (s : Scanner) : ∃ c, s.cursor.Reaches c ∧
    s.next.1.token.span.start = c.offset ∧
      startsBinding c.rest = startsBinding s.next.1.token.text.toList := by
  have sought := s.seek_reaches (Trivia.start s.cursor)
  have settled := s.step?_seek (Trivia.start s.cursor)
  refine ⟨_, sought, ?_⟩
  rw [next]
  split
  · rename_i t word found
    have stands := @word?_of_seek s (Trivia.start s.cursor) word (by rw [found])
    rw [found] at stands settled ⊢
    refine ⟨rfl, ?_⟩
    obtain ⟨x, rest, here, white⟩ := word?_starts settled stands
    obtain ⟨piece, read, some, -⟩ := word?_written stands
    obtain ⟨y, behind, rfl⟩ := List.exists_cons_of_ne_nil some
    obtain ⟨rfl, -⟩ := List.cons.inj (here.symm.trans read.1)
    show startsBinding t.cursor.rest = startsBinding (String.ofList _).toList
    rw [String.toList_ofList, Cursor.textTo_eq read, here, startsBinding_cons white,
      startsBinding_cons white]
  · rename_i t found
    have none := rest_of_seek (s := s) (t := Trivia.start s.cursor) (by rw [found])
    rw [found] at none ⊢
    exact ⟨rfl, congrArg startsBinding none⟩

/-- A lexeme and the one behind it. -/
theorem next_tells {text : List Char} {s : Scanner} (h : Cursor.Reaches ⟨0, text⟩ s.cursor)
    (goes : s.next.1.token.isEnd = false) : Tells text s.next.1 s.next.2.next.1 := by
  obtain ⟨t, sought, ⟨word, read, hn⟩ | hn⟩ := s.next_cases
  · obtain ⟨c, onward, start, same⟩ := (s.after word).next_starts
    intro white
    rw [hn] at white ⊢
    obtain ⟨between, reached⟩ := onward
    have gap : gap text (ofWord t word) (s.after word).next.1 = between := by
      rw [Lexeme.gap, start]
      have front := (h.trans sought).trans (reaches_of_word? read)
      exact (Cursor.slice_spanTo front ⟨_, reached⟩).trans (Cursor.textTo_eq reached)
    rw [gap] at white
    rw [← same, ← startsBinding_append white, ← reached.1]
    rfl
  · rw [hn, ofEnd_isEnd] at goes
    cases goes

/-- Nothing but a `let` declares. -/
theorem next_kind (s : Scanner) (h : s.next.1.opensBinding = true) :
    s.next.1.token.kind = .name "let" := by
  obtain ⟨t, -, ⟨word, -, hn⟩ | hn⟩ := s.next_cases
  · rw [hn] at h ⊢
    exact eq_of_beq (Bool.and_eq_true_iff.mp h).1
  · rw [hn] at h
    cases h

/-- In a run each lexeme tells of the one behind it. -/
theorem Runs.tells {text : List Char} {s : Scanner} {lexemes : List Lexeme}
    (run : s.Runs lexemes) (h : Cursor.Reaches ⟨0, text⟩ s.cursor) :
    lexemes.IsChain (Tells text) := by
  induction run with
  | stop ends => exact .singleton _
  | step goes behind ih =>
      have chain := ih (h.trans (next_reaches _))
      obtain ⟨more, rfl⟩ := behind.exists_cons
      exact .cons_cons (next_tells h goes) chain

end Scanner

namespace Lexeme

/-- Only white space stands behind the `let`s of the text. -/
def LetsSpaced (text : List Char) : Prop :=
  (ofText text).IsChain fun l m => l.token.kind = .name "let" →
    ∀ x ∈ gap text l m, Character.isWhiteSpace x = true

/-- What the `let`s among the tokens declare, as far as the tokens tell. -/
def lets : List Token → List Bool
  | [] => []
  | [_] => [false]
  | t :: u :: rest =>
    (t.kind == .name "let" && startsBinding u.text.toList) :: lets (u :: rest)

/-- Only a `let` is followed by what it may declare. -/
theorem ofText_kind {text : List Char} {l : Lexeme} (there : l ∈ ofText text)
    (h : l.opensBinding = true) : l.token.kind = .name "let" := by
  exact forall_ofText (motive := fun l => l.opensBinding = true → l.token.kind = .name "let")
    (fun s _ => s.next_kind) l there h

/-- In a text with white space behind its `let`s, each token tells what a `let` in front
    of it declares. -/
theorem LetsSpaced.tells {text : List Char} (spaced : LetsSpaced text) :
    (ofText text).IsChain fun l m =>
      l.opensBinding = (l.token.kind == .name "let" && startsBinding m.token.text.toList) := by
  have tells : (ofText text).IsChain (Tells text) := (runs_ofText text).tells (.refl _)
  rw [LetsSpaced, List.isChain_iff_forall_rel_of_append_cons_cons] at spaced
  rw [List.isChain_iff_forall_rel_of_append_cons_cons] at tells ⊢
  intro l m before behind split
  by_cases names : l.token.kind = .name "let"
  · exact tells split (spaced split names)
  · have there : l ∈ ofText text := by rw [split]; simp
    rw [Bool.eq_false_iff.mpr (mt (ofText_kind there) names), beq_eq_false_iff_ne.mpr names,
      Bool.false_and]

/-- What the `let`s of such a text declare is told by its tokens alone. -/
theorem LetsSpaced.map_opensBinding {text : List Char} (spaced : LetsSpaced text) :
    (ofText text).map opensBinding = lets ((ofText text).map token) := by
  have tells := spaced.tells
  have last : ∀ l, (ofText text).getLast? = some l → l.opensBinding = false := by
    obtain ⟨words, stop, whole, ends, -⟩ := ofText_terminated text
    intro l hl
    obtain rfl : stop = l := by simpa [whole] using hl
    refine Bool.eq_false_iff.mpr fun declares => ?_
    have kind := ofText_kind (by rw [whole]; simp) declares
    rw [Token.isEnd_eq_false kind TokenKind.noConfusion] at ends
    cases ends
  generalize ofText text = lexemes at tells last
  induction tells with
  | nil => rfl
  | singleton l => exact congrArg (fun b => [b]) (last l rfl)
  | cons_cons here behind ih => exact congrArg₂ List.cons here (ih last)

end Lexeme

end ScriptTree
