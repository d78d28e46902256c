import ScriptTree.Grammar.Rule

/-! # Phrases — the vocabulary of the rules

    Small rules the grammar is written in: tests on the current token,
    tokens that must or may stand somewhere, nodes, and the ways to call a
    nonterminal. -/

namespace ScriptTree.Grammar

open Rule (loop Turn)

/-- The situation. -/
def situation : Rule Situation := .look .done

/-- The token to be taken next. -/
def token : Rule Token := .look fun s => .done s.token

/-- Take the current token. -/
def take : Rule Token := .take .done

/-- Complain about a span. -/
def complain (span : Span) (fault : Fault) : Rule Unit := .complain span fault (.done ())

/-- Complain about the current token. -/
def unexpected : Rule Unit := .look fun s =>
  complain s.token.span
    (if s.token.isEnd then .unexpectedEnd else .unexpectedToken s.token.kind.description)

/-- Complain about the span of the current token. -/
def complainHere (fault : Fault) : Rule Unit := .look fun s => complain s.token.span fault

/-- The current token is the punctuator. -/
def isAt (mark : Punctuator) : Rule Bool := .look fun s => .done (s.token.isPunctuator mark)

/-- The current token is the reserved word. -/
def isAtWord (word : Keyword) : Rule Bool := .look fun s => .done (s.token.isKeyword word)

/-- Take the punctuator if it stands here, and say whether it did. -/
def eat (mark : Punctuator) : Rule Bool := .look fun s =>
  if s.token.isPunctuator mark then .take fun _ => .done true else .done false

/-- Take the reserved word if it stands here, and say whether it did. -/
def eatWord (word : Keyword) : Rule Bool := .look fun s =>
  if s.token.isKeyword word then .take fun _ => .done true else .done false

/-- Take the punctuator, or complain and take it as read. -/
def expect (mark : Punctuator) : Rule Unit := do
  if ← eat mark then pure () else unexpected

/-- Take the reserved word, or complain and take it as read. -/
def expectWord (word : Keyword) : Rule Unit := do
  if ← eatWord word then pure () else unexpected

/-- The end of a statement: a semicolon, or a place where it may be left
    out. -/
def semicolon : Rule Unit := do
  if ← eat .semicolon then pure ()
  else
    let s ← situation
    if s.allowsMissingSemicolon then pure () else unexpected

/-- A node that is open: its start and the comments that lead it. -/
structure Opened where
  start : Nat
  leading : List Comment
deriving DecidableEq, Repr, Inhabited

/-- Open a node at the current token. -/
def openNode : Rule Opened := .look fun s =>
  .openAt s.token.span.start fun leading => .done ⟨s.token.span.start, leading⟩

/-- A node that starts where a part of it started; no comment leads it. -/
def openedAt (start : Nat) : Opened := ⟨start, []⟩

/-- Close a node at an offset, or at its start if that lies behind. -/
def closeNodeAt (opened : Opened) (shape : Shape Node) (stop : Nat) : Rule Node :=
  .close ⟨shape, ⟨opened.start, max stop opened.start⟩, opened.leading, []⟩ .done

/-- Close a node behind the last taken token. -/
def closeNode (opened : Opened) (shape : Shape Node) : Rule Node :=
  .look fun s => closeNodeAt opened shape s.previousEnd

/-- The identifier that stands for missing text, behind the last taken
    token. -/
def placeholder : Rule Node := .look fun s => .done (.placeholder s.previousEnd)

/-- Where the current token starts. -/
def here : Rule Nat := .look fun s => .done s.token.span.start

/-- How many tokens were taken. -/
def consumed : Rule Nat := .look fun s => .done s.consumed

/-- Parse a nonterminal. -/
def parse (phrase : Nonterminal) : Rule Node := .call .same phrase .done

/-- Parse a nonterminal one nesting level deeper. -/
def parseNested (phrase : Nonterminal) : Rule Node := .call .nested phrase .done

/-- Parse a nonterminal that opens levels of its own. -/
def parseChain (phrase : Nonterminal) : Rule Node := .call .chain phrase .done

/-- A statement. -/
def statement : Rule Node := parseNested .statement

/-- An assignment or what binds tighter. -/
def assignment (noIn : Bool) : Rule Node := parse (.assignment noIn)

/-- An operand with its operators. -/
def unary : Rule Node := parseNested .unary

/-- Statements between braces, in which a `return` may stand. -/
def functionBody : Rule Node := .call .functionBody .block .done

/-- Assignments with commas between them; more than one make a sequence. -/
def expression (noIn : Bool) : Rule Node := do
  let start ← here
  let first ← assignment noIn
  if ← isAt .comma then
    let expressions ← loop #[first] fun expressions => do
      if ← eat .comma then
        let next ← assignment noIn
        pure (.again (expressions.push next))
      else pure (.leave expressions.toList)
    closeNode (openedAt start) (.sequenceExpression expressions)
  else pure first

end ScriptTree.Grammar
