import ScriptTree.Grammar.Statement

/-! # Pieces of rules

    Many rules ask for something that need not be there, and go on alike whether it is.  What
    they go on with has a name here, so that a property of rules is proved of it once and not for
    each case; an equation says that the rule is its head with the piece behind it. -/

namespace ScriptTree.Grammar

open Rule (loop Turn)

/-! ## Functions and classes -/

/-- A function behind its word, and behind its star if it has one. -/
def functionRest (opened : Opened) (isStatement : Bool) : Rule Node := do
  let name ← optionalName isStatement
  let params ← parameters
  let body ← functionBody
  closeNode opened
    (if isStatement then .functionDeclaration name params body
     else .functionExpression name params body)

/-- A function, with what follows its star by name. -/
theorem function_eq (opened : Opened) (isStatement : Bool) : function opened isStatement = (do
    let _ ← take
    if ← isAt .times then
      complainHere .generatorFunction
      let _ ← take
    functionRest opened isStatement) := rfl

/-- A class behind its name and what it extends. -/
def classRest (opened : Opened) (isStatement : Bool) (name superClass : Option Node) :
    Rule Node := do
  let body ← openNode
  expect .openBrace
  let methods ← classMethods
  expect .closeBrace
  let body ← closeNode body (.classBody methods)
  closeNode opened
    (if isStatement then .classDeclaration name superClass body
     else .classExpression name superClass body)

/-- A class, with what follows its head by name. -/
theorem classPhrase_eq (opened : Opened) (isStatement : Bool) :
    classPhrase opened isStatement = (do
      let _ ← take
      let name ← optionalName isStatement
      let superClass ← do
        if ← eatWord .extendsWord then
          let start ← here
          let base ← parse .atom
          pure (some (← parseChain (.subscripts base start false)))
        else pure none
      classRest opened isStatement name superClass) := rfl

/-! ## Rounds of loops -/

/-- The end of a round between parentheses, behind an item. -/
def parenthesizedTurn (found : Array Node) (hasRest : Bool) (before : Nat) :
    Rule (Turn (Array Node × Bool) (List Node × Bool)) := do
  let after ← consumed
  if after == before then pure (.leave (found.toList, hasRest))
  else if ← eat .comma then pure (.again (found, hasRest))
  else pure (.leave (found.toList, hasRest))

/-- The loop between parentheses, with the end of its round by name. -/
theorem parenthesized_eq : parenthesized =
    (loop ((#[], false) : Array Node × Bool) fun state => do
      if ← isAtClose .closeParen then pure (.leave (state.1.toList, state.2))
      else
        let before ← consumed
        let isRest ← isAt .ellipsis
        let item ← if isRest then restElement else assignment false
        parenthesizedTurn (state.1.push item) (state.2 || isRest) before) := rfl

/-- The end of a round of declarators, behind the value. -/
def declaratorTurn (opened : Opened) (found : Array Node) (id : Node) (init : Option Node) :
    Rule (Turn (Array Node) (List Node)) := do
  let found := found.push (← closeNode opened (.variableDeclarator id init))
  if ← eat .comma then pure (.again found) else pure (.leave found.toList)

/-- The loop over declarators, with the end of its round by name. -/
theorem declarators_eq (noIn : Bool) : declarators noIn = (loop #[] fun found => do
    let opened ← openNode
    let id ← bindingTarget
    let init ← if ← eat .assign then pure (some (← assignment noIn)) else pure none
    declaratorTurn opened found id init) := rfl

/-- The end of a round of operators, behind the level that is opened for it. -/
def operatorTurn (left : Node) (start : Nat) (operator : BinaryOperator) (noIn : Bool) :
    Rule (Turn Node Node) := do
  let _ ← take
  let rightStart ← here
  let operand ← unary
  let right ← parseChain (.operators operand rightStart (rightMinimum operator) noIn)
  let whole ← closeNode (openedAt start) (binaryShape operator left right)
  pure (.again whole)

/-! ## Statements -/

/-- A block behind its opening brace. -/
def blockRest (opened : Opened) : Rule Node := do
  let body ← statementsUntil fun t => t.isPunctuator .closeBrace
  expect .closeBrace
  closeNode opened (.blockStatement body)

/-- A block, with what follows its brace by name. -/
theorem blockRule_eq : blockRule = (do
    let opened ← openNode
    expect .openBrace
    blockRest opened) := rfl

/-- The body of a loop with three parts. -/
def forBody (opened : Opened) (init test update : Option Node) : Rule Node := do
  expect .closeParen
  let body ← statement
  closeNode opened (.forStatement init test update body)

/-- A loop with three parts behind the second of them. -/
def forUpdate (opened : Opened) (init test : Option Node) : Rule Node := do
  expect .semicolon
  let update ← if ← isAt .closeParen then pure none else pure (some (← expression false))
  forBody opened init test update

/-- A loop with three parts, with what follows the second of them by name. -/
theorem forRest_eq (opened : Opened) (init : Option Node) : forRest opened init = (do
    expect .semicolon
    let test ← if ← isAt .semicolon then pure none else pure (some (← expression false))
    forUpdate opened init test) := rfl

/-- The body of a loop over members or elements. -/
def forEachBody (opened : Opened) (isOf : Bool) (left right : Node) : Rule Node := do
  expect .closeParen
  let body ← statement
  closeNode opened
    (if isOf then .forOfStatement left right body else .forInStatement left right body)

/-- A loop over something, with its body by name. -/
theorem forEach_eq (opened : Opened) (left : Node) : forEach opened left = (do
    let isOf := (← token).isNamed "of"
    let _ ← take
    let right ← if isOf then assignment false else expression false
    forEachBody opened isOf left right) := rfl

/-- The argument of a `return`, unless the statement has ended. -/
def returnValue (opened : Opened) (ended : Bool) : Rule Node := do
  if ended then closeNode opened (.returnStatement none)
  else
    let argument ← expression false
    semicolon
    closeNode opened (.returnStatement (some argument))

/-- A `return` behind its word. -/
def returnRest (opened : Opened) : Rule Node := do
  let ended ← if ← eat .semicolon then pure true else pure (← situation).allowsMissingSemicolon
  returnValue opened ended

/-- A `return`, with what follows its word by name. -/
theorem returnStatement_eq : returnStatement = (do
    let opened ← openNode
    if (← situation).inFunction then pure () else complainHere .returnOutsideFunction
    let _ ← take
    returnRest opened) := rfl

/-- A `throw` behind its word. -/
def throwRest (opened : Opened) : Rule Node := do
  let argument ← expression false
  semicolon
  closeNode opened (.throwStatement argument)

/-- A `throw`, with its argument by name. -/
theorem throwStatement_eq : throwStatement = (do
    let opened ← openNode
    let _ ← take
    let s ← situation
    if s.token.newlineBefore then
      complain ⟨s.previousEnd, s.token.span.start⟩ .newlineAfterThrow
    throwRest opened) := rfl

/-- The end of a `try` behind all of its blocks. -/
def tryEnd (opened : Opened) (block : Node) (handler finalizer : Option Node) : Rule Node := do
  if handler.isNone && finalizer.isNone then complainHere .missingHandler
  closeNode opened (.tryStatement block handler finalizer)

/-- A `try` behind what catches errors. -/
def tryRest (opened : Opened) (block : Node) (handler : Option Node) : Rule Node := do
  let finalizer ← if ← eatWord .finallyWord then pure (some (← parse .block)) else pure none
  tryEnd opened block handler finalizer

/-- A `try`, with what follows its handler by name. -/
theorem tryStatement_eq : tryStatement = (do
    let opened ← openNode
    let _ ← take
    let block ← parse .block
    let handler ← if ← isAtWord .catchWord then pure (some (← catchClause)) else pure none
    tryRest opened block handler) := rfl

/-- The end of a statement that is an expression. -/
def expressionEnd (opened : Opened) (inner : Node) : Rule Node := do
  semicolon
  closeNode opened (.expressionStatement inner)

/-- A label or an expression, with the end of the latter by name. -/
theorem expressionStatement_eq : expressionStatement = (do
    let opened ← openNode
    let inner ← expression false
    let labels ←
      if inner.identifierName?.isSome && !inner.isPlaceholder then eat .colon else pure false
    if labels then
      let body ← statement
      closeNode opened (.labeledStatement inner body)
    else expressionEnd opened inner) := rfl

end ScriptTree.Grammar
