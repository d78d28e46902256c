import ScriptTree.Grammar.Machine
import ScriptTree.Grammar.Statement

/-! # Programs — parsing a whole text

    Each nonterminal has its rule.  `derive` runs the rule of a nonterminal
    and lets it call others with less fuel; `fuelFor` is more than any text
    of that many lexemes can use.  A program is opened before anything is
    read and reaches to the end of the text. -/

namespace ScriptTree

/-- The rule of a nonterminal. -/
def Nonterminal.rule : Nonterminal → Rule Node
  | .statement => Grammar.statementRule
  | .block => Grammar.blockRule
  | .assignment noIn => Grammar.assignmentRule noIn
  | .unary => Grammar.unaryRule
  | .atom => Grammar.atomRule
  | .operators left start minimum noIn => Grammar.operatorsRule left start minimum noIn
  | .subscripts base start noCalls => Grammar.subscriptsRule base start noCalls
  | .arrayPattern => Grammar.arrayPattern
  | .objectPattern => Grammar.objectPattern

variable {σ : Type}

/-- Parse a nonterminal with so much fuel. -/
def derive (setting : Setting σ) : Nat → Nonterminal → Progress σ → Outcome σ Node
  | 0, _, p => .stopped .outOfFuel p
  | fuel + 1, phrase, p => phrase.rule.run setting fuel (derive setting fuel) p

/-- Enough fuel for so many lexemes. -/
def fuelFor (lexemes : Nat) : Nat := 8 * (lexemes + nestingLimit) + 8

/-- Statements up to the end of the text. -/
def Grammar.programBody : Rule (List Node) := statementsUntil fun _ => false

/-- What stands in front of the first token: nothing was read yet. -/
def Lexeme.none : Lexeme := ⟨[], [], ⟨.endOfInput, .point 0, false, ""⟩, true, false⟩

/-- A parse at the start of the lexemes. -/
def Progress.start (lexemes : List Lexeme) (observed : σ) : Progress σ :=
  ⟨⟨Lexeme.none, lexemes, 0, 0, 0, false⟩, observed⟩

/-- Parse lexemes that end at the offset `stop`. -/
def parseLexemes (setting : Setting σ) (lexemes : List Lexeme) (stop : Nat) (observed : σ) :
    Outcome σ Node :=
  let fuel := fuelFor lexemes.length
  let opened := setting.observer.opened 0 observed
  ((Progress.start lexemes opened.2).advance setting).andThen fun _ p =>
    (Grammar.programBody.run setting fuel (derive setting fuel) p).andThen fun body q =>
      (Grammar.closeNodeAt ⟨0, opened.1⟩ (.program body) stop).run setting fuel
        (derive setting fuel)
        { q with situation := { q.situation with previousEnd := stop } }

/-- How parsing a text ended for its reader. -/
inductive ParseResult where
  | tree (program : Node)
  | rejected (error : SyntaxError)
  /-- The fuel did not last, which does not happen. -/
  | unfinished
deriving Inhabited

/-- The result of an outcome, and what was observed. -/
def Outcome.result : Outcome σ Node → ParseResult × σ
  | .done program p => (.tree program, p.observed)
  | .stopped (.rejected error) p => (.rejected error, p.observed)
  | .stopped .outOfFuel p => (.unfinished, p.observed)

/-- What a reader is told of a parse tells how it ended. -/
theorem Outcome.eq_done_of_result {o : Outcome σ Node} {program : Node}
    (h : o.result.1 = .tree program) : ∃ p, o = .done program p := by
  rcases o with ⟨found, p⟩ | ⟨e | _, p⟩
  · cases h
    exact ⟨p, rfl⟩
  · cases h
  · cases h

/-- A rejection that is reported is where the parse stopped. -/
theorem Outcome.eq_rejected_of_result {o : Outcome σ Node} {e : SyntaxError}
    (h : o.result.1 = .rejected e) : ∃ p, o = .stopped (.rejected e) p := by
  rcases o with ⟨found, p⟩ | ⟨f | _, p⟩
  · cases h
  · cases h
    exact ⟨p, rfl⟩
  · cases h

/-- Parse a text under an observer. -/
def parseText (mode : Mode) (text : List Char) (lines : LineIndex) (observer : Observer σ)
    (observed : σ) : ParseResult × σ :=
  (parseLexemes ⟨mode, lines, observer⟩ (Lexeme.ofText text) (Text.byteLength text)
    observed).result

/-- Parse a text that nobody watches. -/
def parse (mode : Mode) (text : List Char) : ParseResult :=
  (parseText mode text (.ofText text) .silent ()).1

end ScriptTree
