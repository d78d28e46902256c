import ScriptTree.Grammar.Phrase

/-! # Leaves and sequences — single tokens, and phrases between delimiters

    Leaves are phrases of a single token, names and literals; beside them
    stand the names of properties, which may also be computed.

    Lists with commas come in two kinds.  Where a comma must stand between
    two items, its absence is complained about; where what follows decides,
    the list just ends.  Either kind ends early when an item takes no token,
    so that every round makes progress. -/

namespace ScriptTree.Grammar

open Rule (loop Turn)

/-! ## Leaves -/

/-- Take the current token as a node of its own. -/
def leaf (shape : Shape Node) : Rule Node := do
  let opened ← openNode
  let _ ← take
  closeNode opened shape

/-- Complain about the current token and put a placeholder in its place. -/
def missing : Rule Node := do
  unexpected
  placeholder

/-- An identifier. -/
def identifier : Rule Node := do
  match (← token).kind with
  | .name text => leaf (.identifier text)
  | _ => missing

/-- An identifier where reserved words are names as well. -/
def identifierName : Rule Node := do
  match (← token).kind with
  | .name text => leaf (.identifier text)
  | .keyword word => leaf (.identifier word.spelling)
  | _ => missing

/-- The value a token has as a literal. -/
def literalValue? : TokenKind → Option LiteralValue
  | .number value => some (.number value)
  | .string value => some (.string value)
  | .regExp pattern flags => some (.regExp pattern flags)
  | .keyword .trueWord => some (.boolean true)
  | .keyword .falseWord => some (.boolean false)
  | .keyword .nullWord => some .null
  | _ => none

/-- A literal. -/
def literal : Rule Node := do
  let here ← token
  match literalValue? here.kind with
  | some value => leaf (.literal value here.text)
  | none => missing

/-- The name of a property, and whether it is computed. -/
def propertyName : Rule (Node × Bool) := do
  if ← eat .openBracket then
    let key ← assignment false
    expect .closeBracket
    pure (key, true)
  else
    match (← token).kind with
    | .number _ => return (← literal, false)
    | .string _ => return (← literal, false)
    | _ => return (← identifierName, false)

/-! ## Sequences -/

/-- The closing mark, or the end of the text, stands here. -/
def isAtClose (close : Punctuator) : Rule Bool := .look fun s =>
  .done (s.token.isPunctuator close || s.token.isEnd)

/-- Behind an item that began when `before` tokens were taken: whether
    another may follow it.  A missing comma is complained about. -/
def endItem (close : Punctuator) (before : Nat) : Rule Bool := do
  let after ← consumed
  if after == before then pure false
  else if ← isAt close then pure true
  else if ← eat .comma then pure true
  else
    unexpected
    pure false

/-- Items with commas between them, up to the closing mark. -/
def items (close : Punctuator) (item : Rule Node) : Rule (List Node) :=
  loop #[] fun found => do
    if ← isAtClose close then pure (.leave found.toList)
    else
      let before ← consumed
      let found := found.push (← item)
      if ← endItem close before then pure (.again found) else pure (.leave found.toList)

/-- Items with commas between them, where a comma without an item in front
    of it leaves a hole. -/
def elements (close : Punctuator) (item : Rule Node) : Rule (List (Option Node)) :=
  loop #[] fun found => do
    if ← isAtClose close then pure (.leave found.toList)
    else if ← eat .comma then pure (.again (found.push none))
    else
      let before ← consumed
      let found := found.push (some (← item))
      if ← endItem close before then pure (.again found) else pure (.leave found.toList)

/-- Items each of which goes on to the next by a comma. -/
def commaChain (close : Punctuator) (item : Rule Node) : Rule (List Node) :=
  loop #[] fun found => do
    if ← isAtClose close then pure (.leave found.toList)
    else
      let before ← consumed
      let found := found.push (← item)
      let after ← consumed
      if after == before then pure (.leave found.toList)
      else if ← eat .comma then pure (.again found)
      else pure (.leave found.toList)

/-- Statements up to a token that ends the list.  A statement that took no
    token is dropped, and the token it stumbled over is skipped. -/
def statementsUntil (ends : Token → Bool) : Rule (List Node) :=
  loop #[] fun found => do
    let s ← situation
    if s.token.isEnd || ends s.token then pure (.leave found.toList)
    else
      let next ← statement
      let after ← consumed
      if after == s.consumed then
        let _ ← take
        pure (.again found)
      else pure (.again (found.push next))

end ScriptTree.Grammar
