import ScriptTree.Grammar.Expression

/-! # Statements

    Most statements begin with a word of their own.  What begins with no
    such word is a block, an empty statement, a declaration with `let`, or
    an expression, which a colon turns into a label. -/

namespace ScriptTree.Grammar

open Rule (loop Turn)

/-- Statements between braces. -/
def blockRule : Rule Node := do
  let opened ← openNode
  expect .openBrace
  let body ← statementsUntil fun t => t.isPunctuator .closeBrace
  expect .closeBrace
  closeNode opened (.blockStatement body)

/-- An expression between parentheses. -/
def parenExpression : Rule Node := do
  expect .openParen
  let inner ← expression false
  expect .closeParen
  pure inner

/-! ## Declarations -/

/-- Declarators with commas between them. -/
def declarators (noIn : Bool) : Rule (List Node) :=
  loop #[] fun found => do
    let opened ← openNode
    let id ← bindingTarget
    let init ← if ← eat .assign then pure (some (← assignment noIn)) else pure none
    let found := found.push (← closeNode opened (.variableDeclarator id init))
    if ← eat .comma then pure (.again found) else pure (.leave found.toList)

/-- A declaration of variables, at its first word. -/
def variableStatement (kind : BindingKind) : Rule Node := do
  let opened ← openNode
  let _ ← take
  let found ← declarators false
  semicolon
  closeNode opened (.variableDeclaration kind found)

/-! ## Control flow -/

/-- A branch, at `if`. -/
def ifStatement : Rule Node := do
  let opened ← openNode
  let _ ← take
  let test ← parenExpression
  let consequent ← statement
  let alternate ← if ← eatWord .elseWord then pure (some (← statement)) else pure none
  closeNode opened (.ifStatement test consequent alternate)

/-- A loop with a counter behind its first part, at the first semicolon. -/
def forRest (opened : Opened) (init : Option Node) : Rule Node := do
  expect .semicolon
  let test ← if ← isAt .semicolon then pure none else pure (some (← expression false))
  expect .semicolon
  let update ← if ← isAt .closeParen then pure none else pure (some (← expression false))
  expect .closeParen
  let body ← statement
  closeNode opened (.forStatement init test update body)

/-- A loop over members or elements behind its left side, at `in` or
    `of`. -/
def forEach (opened : Opened) (left : Node) : Rule Node := do
  let isOf := (← token).isNamed "of"
  let _ ← take
  let right ← if isOf then assignment false else expression false
  expect .closeParen
  let body ← statement
  closeNode opened
    (if isOf then .forOfStatement left right body else .forInStatement left right body)

/-- The kind of declaration that begins here, if one does. -/
def bindingKind? (s : Situation) : Option BindingKind :=
  match s.token.kind with
  | .keyword .varWord => some .byVar
  | .keyword .constWord => some .byConst
  | _ => if s.current.opensBinding then some .byLet else none

/-- `in` or `of` stands here. -/
def isAtForEach : Rule Bool := .look fun s =>
  .done (s.token.isKeyword .inWord || s.token.isNamed "of")

/-- A loop, at `for`. -/
def forStatement : Rule Node := do
  let opened ← openNode
  let _ ← take
  expect .openParen
  if ← isAt .semicolon then forRest opened none
  else
    match bindingKind? (← situation) with
    | some kind =>
      let declaration ← openNode
      let _ ← take
      let found ← declarators true
      let init ← closeNode declaration (.variableDeclaration kind found)
      if found.length == 1 && (← isAtForEach) then forEach opened init
      else forRest opened (some init)
    | none =>
      let init ← expression true
      if ← isAtForEach then
        let left ← asPattern init
        forEach opened left
      else forRest opened (some init)

/-- A loop, at `while`. -/
def whileStatement : Rule Node := do
  let opened ← openNode
  let _ ← take
  let test ← parenExpression
  let body ← statement
  closeNode opened (.whileStatement test body)

/-- A loop, at `do`. -/
def doWhileStatement : Rule Node := do
  let opened ← openNode
  let _ ← take
  let body ← statement
  expectWord .whileWord
  let test ← parenExpression
  let _ ← eat .semicolon
  closeNode opened (.doWhileStatement body test)

/-- A `return`, which stands in functions only. -/
def returnStatement : Rule Node := do
  let opened ← openNode
  if (← situation).inFunction then pure () else complainHere .returnOutsideFunction
  let _ ← take
  let ended ← if ← eat .semicolon then pure true else pure (← situation).allowsMissingSemicolon
  if ended then closeNode opened (.returnStatement none)
  else
    let argument ← expression false
    semicolon
    closeNode opened (.returnStatement (some argument))

/-- The label behind `break` or `continue`, on the same line. -/
def jumpLabel : Rule (Option Node) := do
  let next ← token
  if next.isName && !next.newlineBefore then return some (← identifier) else pure none

/-- A `break` or a `continue`. -/
def jumpStatement (shape : Option Node → Shape Node) : Rule Node := do
  let opened ← openNode
  let _ ← take
  let label ← jumpLabel
  semicolon
  closeNode opened (shape label)

/-- A `throw`, with its argument on the same line. -/
def throwStatement : Rule Node := do
  let opened ← openNode
  let _ ← take
  let s ← situation
  if s.token.newlineBefore then complain ⟨s.previousEnd, s.token.span.start⟩ .newlineAfterThrow
  let argument ← expression false
  semicolon
  closeNode opened (.throwStatement argument)

/-- What catches an error, at `catch`. -/
def catchClause : Rule Node := do
  let opened ← openNode
  let _ ← take
  expect .openParen
  let param ← bindingTarget
  expect .closeParen
  let body ← parse .block
  closeNode opened (.catchClause (some param) body)

/-- A `try` with what catches errors, what comes last, or both. -/
def tryStatement : Rule Node := do
  let opened ← openNode
  let _ ← take
  let block ← parse .block
  let handler ← if ← isAtWord .catchWord then pure (some (← catchClause)) else pure none
  let finalizer ← if ← eatWord .finallyWord then pure (some (← parse .block)) else pure none
  if handler.isNone && finalizer.isNone then complainHere .missingHandler
  closeNode opened (.tryStatement block handler finalizer)

/-- The token begins a case or ends the cases. -/
def endsCase (t : Token) : Bool :=
  t.isPunctuator .closeBrace || t.isKeyword .caseWord || t.isKeyword .defaultWord

/-- One case behind its word, at the colon. -/
def caseRest (opened : Opened) (test : Option Node) : Rule Node := do
  expect .colon
  let consequent ← statementsUntil endsCase
  closeNode opened (.switchCase test consequent)

/-- The cases of a `switch`.  A token that begins none is skipped. -/
def switchCases : Rule (List Node) :=
  loop #[] fun found => do
    if ← isAtClose .closeBrace then pure (.leave found.toList)
    else
      let opened ← openNode
      if ← eatWord .caseWord then
        let test ← expression false
        let clause ← caseRest opened (some test)
        pure (.again (found.push clause))
      else if ← eatWord .defaultWord then
        let clause ← caseRest opened none
        pure (.again (found.push clause))
      else
        unexpected
        let _ ← take
        pure (.again found)

/-- A choice between cases, at `switch`. -/
def switchStatement : Rule Node := do
  let opened ← openNode
  let _ ← take
  let discriminant ← parenExpression
  expect .openBrace
  let cases ← switchCases
  expect .closeBrace
  closeNode opened (.switchStatement discriminant cases)

/-- A statement that looks names up in an object, at `with`. -/
def withStatement : Rule Node := do
  let opened ← openNode
  let _ ← take
  let object ← parenExpression
  let body ← statement
  closeNode opened (.withStatement object body)

/-! ## All statements -/

/-- An expression as a statement, or a label with the statement it names. -/
def expressionStatement : Rule Node := do
  let opened ← openNode
  let inner ← expression false
  let labels ←
    if inner.identifierName?.isSome && !inner.isPlaceholder then eat .colon else pure false
  if labels then
    let body ← statement
    closeNode opened (.labeledStatement inner body)
  else
    semicolon
    closeNode opened (.expressionStatement inner)

/-- A statement that begins with no word of its own. -/
def plainStatement : Rule Node := do
  let s ← situation
  if s.token.isPunctuator .openBrace then parse .block
  else if s.token.isPunctuator .semicolon then leaf .emptyStatement
  else if s.current.opensBinding then variableStatement .byLet
  else expressionStatement

/-- A statement that begins with a reserved word. -/
def wordStatement : Keyword → Rule Node
  | .varWord => variableStatement .byVar
  | .constWord => variableStatement .byConst
  | .functionWord => do
    let opened ← openNode
    function opened true
  | .classWord => do
    let opened ← openNode
    classPhrase opened true
  | .ifWord => ifStatement
  | .forWord => forStatement
  | .whileWord => whileStatement
  | .doWord => doWhileStatement
  | .returnWord => returnStatement
  | .breakWord => jumpStatement .breakStatement
  | .continueWord => jumpStatement .continueStatement
  | .throwWord => throwStatement
  | .tryWord => tryStatement
  | .switchWord => switchStatement
  | .withWord => withStatement
  | .debuggerWord => do
    let opened ← openNode
    let _ ← take
    semicolon
    closeNode opened .debuggerStatement
  | .importWord => do
    complainHere .moduleItem
    plainStatement
  | .exportWord => do
    complainHere .moduleItem
    plainStatement
  | _ => plainStatement

/-- A statement. -/
def statementRule : Rule Node := do
  match (← token).kind with
  | .keyword word => wordStatement word
  | _ => plainStatement

end ScriptTree.Grammar
