import ScriptTree.Proofs.Fuel.Program
import ScriptTree.Proofs.Lexeme.Binding
import ScriptTree.Proofs.Spacing.Statement

/-! # Programs wherever their tokens stand

    A parse of one text goes the way of the parse of another as long as the lexemes of
    the two are alike: it ends with a tree of the same form, or is rejected with the
    same message.

    That a `let` declares something is read off the characters behind it and not off
    the next token, so a comment there changes the program. -/

namespace ScriptTree

open Grammar

variable {σ τ : Type}

/-- Rules of nonterminals that are alike are twins. -/
theorem Nonterminal.Alike.rule_twin {phrase phrase' : Nonterminal} (h : phrase.Alike phrase') :
    Rule.TwinBy Node.form phrase.rule phrase'.rule := by
  cases h with
  | operators form start start' minimum noIn => exact operatorsRule_twin form _ _ _ _
  | subscripts form start start' noCalls => exact subscriptsRule_twin form _ _ _
  | same =>
      cases phrase with
      | statement => exact statementRule_steady
      | block => exact blockRule_steady
      | assignment noIn => exact assignmentRule_steady noIn
      | unary => exact unaryRule_steady
      | atom => exact atomRule_steady
      | operators left start minimum noIn => exact operatorsRule_twin rfl _ _ _ _
      | subscripts base start noCalls => exact subscriptsRule_twin rfl _ _ _
      | arrayPattern => exact arrayPattern_steady
      | objectPattern => exact objectPattern_steady

/-- Parses of nonterminals that are alike go the same way. -/
theorem derive_parallel {s : Setting σ} {t : Setting τ} (mode : s.mode = t.mode) (fuel : Nat)
    (phrase phrase' : Nonterminal) (h : phrase.Alike phrase') :
    Parallel (fun n m : Node => n.form = m.form) (derive s fuel phrase)
      (derive t fuel phrase') := by
  induction fuel generalizing phrase phrase' with
  | zero => exact fun p q _ => .outOfFuel
  | succ fuel ih => exact h.rule_twin.run mode ih

/-- Programs are read alike. -/
theorem programBody_steady : programBody.Steady Node.forms :=
  statementsUntil_steady fun _ _ _ => rfl

/-- Streams of lexemes that are alike are parsed the same way. -/
theorem parseLexemes_alike {s : Setting σ} {t : Setting τ} (mode : s.mode = t.mode)
    {lexemes lexemes' : List Lexeme} (alike : List.Forall₂ Lexeme.Alike lexemes lexemes')
    (stop stop' : Nat) (a : σ) (b : τ) :
    (parseLexemes s lexemes stop a).Alike (fun n m : Node => n.form = m.form)
      (parseLexemes t lexemes' stop' b) := by
  have nothing : Lexeme.none.Alike Lexeme.none := ⟨⟨rfl, rfl, rfl⟩, rfl, rfl, rfl⟩
  rw [parseLexemes, parseLexemes, alike.length_eq]
  have inside := derive_parallel mode (fuelFor lexemes'.length)
  have start (a : σ) (b : τ) : (Progress.start lexemes a).situation.Alike
      (Progress.start lexemes' b).situation := ⟨nothing, alike, rfl, rfl, rfl⟩
  refine (Progress.advance_parallel _ _ (start _ _)).andThen fun _ _ _ p q here => ?_
  refine (programBody_steady.run mode inside p q here).andThen fun body body' same p q here => ?_
  refine (closeNodeAt_twin ?_ _ _ _ _).run mode inside _ _ ?_
  · simp only [Shape.form, same]
  · exact ⟨here.current, here.upcoming, here.consumed, here.depth, here.inFunction⟩

/-! ## Texts with the same tokens -/

/-- The texts differ only in comments and white space: nothing is wrong with either,
    and their tokens have the same kinds, texts and line breaks in front of them. -/
structure SameTokens (text text' : List Char) : Prop where
  quiet : (lex text).diagnostics = [] ∧ (lex text').diagnostics = []
  tokens : List.Forall₂ Token.Alike (lex text).tokens (lex text').tokens

instance (t u : Token) : Decidable (t.Alike u) :=
  decidable_of_iff (t.kind = u.kind ∧ t.text = u.text ∧ t.newlineBefore = u.newlineBefore)
    ⟨fun ⟨kind, text, newline⟩ => ⟨kind, text, newline⟩, fun h => ⟨h.kind, h.text, h.newline⟩⟩

/-- Lexemes are alike if their tokens are and none has a diagnostic. -/
theorem Lexeme.alike_of_tokens {lexemes lexemes' : List Lexeme}
    (quiet : lexemes.flatMap diagnostics = [] ∧ lexemes'.flatMap diagnostics = [])
    (tokens : List.Forall₂ Token.Alike (lexemes.map token) (lexemes'.map token))
    (lets : lexemes.map opensBinding = lexemes'.map opensBinding) :
    List.Forall₂ Lexeme.Alike lexemes lexemes' := by
  induction lexemes generalizing lexemes' with
  | nil =>
      cases lexemes' with
      | nil => exact .nil
      | cons m rest' => cases lets
  | cons l rest ih =>
      cases lexemes' with
      | nil => cases lets
      | cons m rest' =>
          obtain ⟨first, others⟩ := List.forall₂_cons.mp tokens
          obtain ⟨binding, bindings⟩ := List.cons.inj lets
          rw [List.flatMap_cons, List.append_eq_nil_iff, List.flatMap_cons,
            List.append_eq_nil_iff] at quiet
          exact .cons ⟨first, binding, quiet.1.1, quiet.2.1⟩
            (ih ⟨quiet.1.2, quiet.2.2⟩ others bindings)

/-- What the `let`s declare, as far as the tokens tell, is one for the same tokens. -/
theorem Lexeme.lets_congr {ts us : List Token} (h : List.Forall₂ Token.Alike ts us) :
    lets ts = lets us := by
  induction h with
  | nil => rfl
  | cons first rest ih =>
      cases rest with
      | nil => rfl
      | cons second others => rw [lets, lets, first.kind, second.text, ih]

/-! ## Parses of two texts -/

/-- Two results tell the same: trees of one form, or errors with one message. -/
inductive ParseResult.Alike : ParseResult → ParseResult → Prop where
  | tree {program program' : Node} (form : program.form = program'.form) :
      Alike (.tree program) (.tree program')
  | rejected {e e' : SyntaxError} (message : e.message = e'.message) :
      Alike (.rejected e) (.rejected e')

/-- The text is a program. -/
def ParseResult.accepts : ParseResult → Bool
  | .tree _ => true
  | .rejected _ => false
  | .unfinished => false

/-- Results that are alike accept or reject alike. -/
theorem ParseResult.Alike.accepts {r r' : ParseResult} (h : r.Alike r') :
    r.accepts = r'.accepts := by
  cases h <;> rfl

/-- The results of two texts are alike if their lexemes are. -/
theorem parseText_alike (mode : Mode) {text text' : List Char}
    (alike : List.Forall₂ Lexeme.Alike (Lexeme.ofText text) (Lexeme.ofText text'))
    (lines lines' : LineIndex) (o : Observer σ) (o' : Observer τ) (a : σ) (b : τ) :
    (parseText mode text lines o a).1.Alike (parseText mode text' lines' o' b).1 := by
  have finishes := parseText_finishes mode text lines o a
  have ends := parseLexemes_alike (s := ⟨mode, lines, o⟩) (t := ⟨mode, lines', o'⟩) rfl alike
    (Text.byteLength text) (Text.byteLength text') a b
  rw [parseText] at finishes ⊢
  rw [parseText]
  generalize parseLexemes ⟨mode, lines, o⟩ (Lexeme.ofText text) (Text.byteLength text) a = one,
    parseLexemes ⟨mode, lines', o'⟩ (Lexeme.ofText text') (Text.byteLength text') b = other
    at finishes ends ⊢
  cases ends with
  | done form => exact .tree form
  | rejected message _ => exact .rejected message
  | outOfFuel => exact absurd rfl finishes

/-- SPACES AND COMMENTS ARE TRIVIA, where the same `let`s declare something.  Two texts
    with the same tokens are both accepted, with the same tree but for ranges and
    comments, or both rejected with the same message, whoever watches. -/
theorem parseText_spacing (mode : Mode) {text text' : List Char} (same : SameTokens text text')
    (lets : (Lexeme.ofText text).map Lexeme.opensBinding =
      (Lexeme.ofText text').map Lexeme.opensBinding)
    (lines lines' : LineIndex) (o : Observer σ) (o' : Observer τ) (a : σ) (b : τ) :
    (parseText mode text lines o a).1.Alike (parseText mode text' lines' o' b).1 :=
  parseText_alike mode (Lexeme.alike_of_tokens same.quiet same.tokens lets) lines lines' o o' a b

/-- Blanks, comments and line ends between the tokens of a sum play no part. -/
theorem parseText_spacing_sum :
    SameTokens "let a = b +\nc".toList "let a/* left */=b+ // right\n\tc".toList ∧
      (parse .strict "let a = b +\nc".toList).Alike
        (parse .strict "let a/* left */=b+ // right\n\tc".toList) := by
  have same : SameTokens "let a = b +\nc".toList "let a/* left */=b+ // right\n\tc".toList :=
    ⟨by decide +kernel, by decide +kernel⟩
  exact ⟨same, parseText_spacing .strict same (by decide +kernel) _ _ .silent .silent () ()⟩

/-- Without that condition comments are no trivia: with one behind it, a `let` is a name. -/
theorem parse_not_spacing : ¬ ∀ text text' : List Char, SameTokens text text' →
    (parse .strict text).Alike (parse .strict text') := by
  intro trivia
  have same : SameTokens "let x".toList "let/**/x".toList := ⟨by decide +kernel, by decide +kernel⟩
  exact absurd (trivia _ _ same).accepts (by decide +kernel)

/-- Where every `let` has white space behind it, nothing else matters. -/
theorem parseText_letsSpaced (mode : Mode) {text text' : List Char} (same : SameTokens text text')
    (spaced : Lexeme.LetsSpaced text) (spaced' : Lexeme.LetsSpaced text')
    (lines lines' : LineIndex) (o : Observer σ) (o' : Observer τ) (a : σ) (b : τ) :
    (parseText mode text lines o a).1.Alike (parseText mode text' lines' o' b).1 := by
  refine parseText_alike mode (Lexeme.alike_of_tokens same.quiet same.tokens ?_) _ _ o o' a b
  rw [spaced.map_opensBinding, spaced'.map_opensBinding]
  exact Lexeme.lets_congr same.tokens

end ScriptTree
