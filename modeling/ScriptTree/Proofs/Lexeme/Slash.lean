import Mathlib.Data.List.Chain
import ScriptTree.Proofs.Lexeme.Step

/-! # Slashes — division or a regular expression

    A slash divides where a value has ended and opens a regular expression anywhere else.
    The scanner takes this from one token, the one in front of the slash, and does not look
    behind it.  So a reserved word is a value or not whatever stands in front of it: behind a
    dot, where it is the name of a member, it is read as anywhere else, and the slash behind
    the member `a.if` opens a regular expression. -/

namespace ScriptTree

/-- The reserved words that are values. -/
def Keyword.operands : List Keyword := [.thisWord, .superWord, .trueWord, .falseWord, .nullWord]

namespace TokenKind

/-- The token was read from a slash, as the opening of a regular expression. -/
def isRegExp : TokenKind → Bool
  | .regExp .. => true
  | _ => false

/-- The token was read from a slash, as a division. -/
def isDivision : TokenKind → Bool
  | .punctuator .divide => true
  | .punctuator .divideAssign => true
  | _ => false

/-- If the token was read from a slash, it was read as it has to be where regular expressions
    are allowed, or where they are not. -/
structure Slashes (allowed : Bool) (kind : TokenKind) : Prop where
  regExp : kind.isRegExp = true → allowed = true
  division : kind.isDivision = true → allowed = false

/-- Behind a keyword a regular expression may stand, unless the keyword is an operand. -/
theorem allowsRegExp_keyword (word : Keyword) :
    (keyword word).allowsRegExp = true ↔ word ∉ Keyword.operands := by
  cases word <;> decide

end TokenKind

namespace Scanner

variable {s : Scanner} {c : Cursor} {w : Scanned} {lexemes : List Lexeme}

/-- A slash is read as the scanner has it. -/
theorem slashes (here : s.word? c = some w) : w.kind.Slashes s.regExpAllowed := by
  obtain ⟨kind, cursor, diagnostics⟩ := w
  cases finds_of_word? here with
  | regExp pattern flags allowed => exact ⟨fun _ => allowed, nofun⟩
  | punctuator mark brace slash =>
      refine ⟨nofun, fun divides => slash ?_⟩
      cases mark with
      | divide => decide
      | divideAssign => decide
      | _ => cases divides
  | _ => exact ⟨nofun, nofun⟩

/-- In a run the first slash is read as the scanner has it, and each one behind a token as the
    token has it. -/
theorem Runs.slashes (run : s.Runs lexemes) : s.next.1.token.kind.Slashes s.regExpAllowed ∧
    lexemes.IsChain fun before here =>
      here.token.kind.Slashes before.token.kind.allowsRegExp := by
  induction run with
  | @stop s ends =>
      rw [Token.isEnd_iff.mp ends]
      exact ⟨⟨nofun, nofun⟩, .singleton _⟩
  | @step s lexemes goes behind ih =>
      obtain ⟨t, w, here, next⟩ := word_of_next goes
      obtain ⟨more, rfl⟩ := behind.exists_cons
      rw [next] at ih ⊢
      exact ⟨Scanner.slashes here, .cons_cons ih.1 ih.2⟩

end Scanner

/-- SLASHES: behind a reserved word a slash opens a regular expression unless the word is a
    value, and divides if it is one, wherever the word stands. -/
theorem lex_slash (text : List Char) : (lex text).tokens.IsChain fun before here =>
    ∀ word, before.kind = .keyword word →
      (here.kind.isRegExp = true → word ∉ Keyword.operands) ∧
      (here.kind.isDivision = true → word ∈ Keyword.operands) := by
  obtain ⟨-, chain⟩ := (Lexeme.runs_ofText text).slashes
  refine (List.isChain_map Lexeme.token).mpr (chain.imp fun before here slashes word named => ?_)
  rw [named] at slashes
  have decides := TokenKind.allowsRegExp_keyword word
  refine ⟨fun regExp => decides.mp (slashes.regExp regExp), fun division => ?_⟩
  rw [slashes.division division] at decides
  exact not_not.mp fun other => Bool.noConfusion (decides.mpr other)

/-- In `a.if/b/c` the slash behind the member opens a regular expression. -/
theorem not_division_behind_member : ¬ ∀ (text : List Char) (before behind : List Token)
    (dot word slash : Token) (k : Keyword),
    (lex text).tokens = before ++ dot :: word :: slash :: behind →
      dot.kind = .punctuator .dot → word.kind = .keyword k → slash.kind.isRegExp = false := by
  intro divides
  have tokens : (lex "a.if/b/c".toList).tokens =
      [⟨.name "a", ⟨0, 1⟩, false, "a"⟩, ⟨.punctuator .dot, ⟨1, 2⟩, false, "."⟩,
        ⟨.keyword .ifWord, ⟨2, 4⟩, false, "if"⟩, ⟨.regExp "b" "c", ⟨4, 8⟩, false, "/b/c"⟩,
        ⟨.endOfInput, ⟨8, 8⟩, false, ""⟩] := by
    decide +kernel
  cases divides _ [_] [_] _ _ _ _ tokens rfl rfl

end ScriptTree
